import HandsetAudio.Proofs.Device.Paths
import HandsetAudio.Proofs.Device.Periphery

/-!
# Faults of the mixer and the modem are contained

A control may be missing, of the wrong kind or refuse writes, and a modem may refuse to connect
or lose requests: clients do not notice, and no stream or call goes differently for it. Main
statement:

> `faults_contained`: two devices on the same card, with any two mixers and any two modems, give
> the same answers in every run and do the same on the card. If only the modems differ, the same
> is written to the mixers, and if only the mixers differ, the modems are asked the same.
-/

namespace HandsetAudio

namespace Periphery

variable {μ μ' : Type} [ModemLink μ] [ModemLink μ']

/-- All that a device needs to know of its periphery. -/
structure Passable (s : Periphery μ) (s' : Periphery μ') : Prop where
  volumeSteps : s'.modem.volumeSteps = s.modem.volumeSteps
  micMute : s'.micMute = s.micMute

/-- Peripheries with the same codec. -/
structure SameCodec (s : Periphery μ) (s' : Periphery μ') : Prop extends Passable s s' where
  codec : s'.codec = s.codec

/-- Peripheries with the same modem. -/
structure SameModem (s s' : Periphery μ) : Prop where
  modem : s'.modem = s.modem
  micMute : s'.micMute = s.micMute

theorem kept_passable :
    Kept Eq (fun _ _ => True) (Passable : Periphery μ → Periphery μ' → Prop) where
  volumeSteps h := h.volumeSteps
  converge h _ _ := ⟨h.volumeSteps, h.micMute⟩
  send h r := ⟨by simp [send, h.volumeSteps], h.micMute⟩
  note h _ := ⟨h.volumeSteps, h.micMute⟩
  mute h _ _ hon := ⟨h.volumeSteps, hon.symm⟩
  relink h _ _ _ := ⟨h.volumeSteps, h.micMute⟩

theorem kept_sameCodec :
    Kept Eq (fun _ _ => True) (SameCodec : Periphery μ → Periphery μ' → Prop) where
  volumeSteps h := h.volumeSteps
  converge h p facts :=
    ⟨kept_passable.converge h.toPassable p facts, by simp only [converge, h.codec]⟩
  send h r := ⟨kept_passable.send h.toPassable r, h.codec⟩
  note h line := ⟨kept_passable.note h.toPassable line, h.codec⟩
  mute h _ _ hon := ⟨kept_passable.mute h.toPassable hon, h.codec⟩
  relink h _ _ hchange := ⟨kept_passable.relink h.toPassable hchange, h.codec⟩

theorem kept_sameModem : Kept Eq Eq (SameModem : Periphery μ → Periphery μ → Prop) where
  volumeSteps h := by rw [h.modem]
  converge h _ _ := ⟨h.modem, h.micMute⟩
  send h r := ⟨by simp only [send, h.modem], h.micMute⟩
  note h _ := ⟨h.modem, h.micMute⟩
  mute h _ _ hon := ⟨h.modem, hon.symm⟩
  relink h _ _ hchange := ⟨by simp only [relink, h.modem, hchange], h.micMute⟩

end Periphery

namespace Device

variable {σ μ μ' : Type}

/-- The status without what it shows of the control tables. -/
def Status.withoutControls (s : Status) : Status :=
  { s with outputControls := [], inputControls := [] }

section

variable [PcmDriver σ] [ModemLink μ] [ModemLink μ'] {R : Periphery μ → Periphery μ' → Prop}
  {mutes : Bool → Bool → Prop} {changes : (μ → μ) → (μ' → μ') → Prop}
  {d : Device σ μ} {d' : Device σ μ'}

omit [PcmDriver σ] [ModemLink μ] [ModemLink μ'] in
/-- Twins with the same facts show the same status. -/
theorem Twins.status (h : Twins R d d') (hrouting : d'.routing = d.routing) :
    d'.status.withoutControls = d.status.withoutControls := by
  unfold Device.status Status.withoutControls
  rw [hrouting, h.loop, h.outputStandby?, h.inputStandby?]

omit [PcmDriver σ] [ModemLink μ] [ModemLink μ'] in
theorem Twins.status_eq (h : Twins R d d') (hrouting : d'.routing = d.routing)
    (hcodec : d'.codec = d.codec) : d'.status = d.status := by
  have houtput : d'.outputPath = d.outputPath := congrArg Codec.output hcodec
  have hinput : d'.inputPath = d.inputPath := congrArg Codec.input hcodec
  unfold Device.status
  rw [hrouting, h.loop, h.outputStandby?, h.inputStandby?, houtput, hinput]

omit [PcmDriver σ] in
/-- Two devices that are opened on the same card with the same configuration are twins. -/
theorem twins_acquire {config : Config} {mixer mixer' : Mixer} {card : σ} {link : μ} {link' : μ'}
    (hopen : Device.acquire config mixer card link = .ok d)
    (hopen' : Device.acquire config mixer' card link' = .ok d')
    (hperiphery : R d.periphery d'.periphery) : Twins R d d' := by
  obtain ⟨hcard, hloop, houtputs, hinputs⟩ := acquire_pcm hopen
  obtain ⟨hcard', hloop', houtputs', hinputs'⟩ := acquire_pcm hopen'
  obtain ⟨hrouting, hline, -⟩ := acquire_spec hopen
  obtain ⟨hrouting', hline', -⟩ := acquire_spec hopen'
  exact
    { config := by rw [(acquire_client hopen).1, (acquire_client hopen').1]
      routing := by rw [hrouting, hrouting']
      card := by rw [hcard, hcard']
      loop := by rw [hloop, hloop']
      outputs := by rw [houtputs, houtputs']
      inputs := by rw [hinputs, hinputs']
      lastOutput := congrArg Line.last ((hline' .output).trans (hline .output).symm)
      lastInput := congrArg Line.last ((hline' .input).trans (hline .input).symm)
      periphery := hperiphery }

omit [PcmDriver σ] in
/-- What two devices that are opened know of their peripheries is the same. -/
theorem passable_acquire {config : Config} {mixer mixer' : Mixer} {card : σ} {link : μ}
    {link' : μ'} (hopen : Device.acquire config mixer card link = .ok d)
    (hopen' : Device.acquire config mixer' card link' = .ok d') :
    d.periphery.Passable d'.periphery where
  volumeSteps := by
    show d'.modem.volumeSteps = d.modem.volumeSteps
    rw [ModemClient.volumeSteps_acquire (acquire_client hopen).2,
      ModemClient.volumeSteps_acquire (acquire_client hopen').2]
  micMute := by
    show d'.routing.micMute = d.routing.micMute
    rw [(acquire_spec hopen).1, (acquire_spec hopen').1]

/-- **Containment**: on the same card and with the same configuration, two devices with any two
mixers and any two modems give the same answers, whatever is done to them, and what their streams
and calls do is the same; only what they report and what they show of the control tables may
differ. With the same mixer the codecs do the same, and with the same modem the modems. -/
theorem faults_contained {config : Config} {card : σ} {mixer mixer' : Mixer} {link : μ}
    {link' : μ'} {d₀ : Device σ μ} {d₀' : Device σ μ'}
    (hopen : Device.acquire config mixer card link = .ok d₀)
    (hopen' : Device.acquire config mixer' card link' = .ok d₀')
    {events : List (Event σ μ)} {events' : List (Event σ μ')}
    (hevents : List.Forall₂ (Event.Matches Eq fun _ _ => True) events events') :
    let d := d₀.play events
    let d' := d₀'.play events'
    (∀ op, (d'.step op).1 = (d.step op).1) ∧ d'.routing = d.routing ∧ d'.card = d.card ∧
      d'.loop = d.loop ∧ d'.outputs = d.outputs ∧ d'.inputs = d.inputs ∧
      d'.status.withoutControls = d.status.withoutControls ∧
      (mixer' = mixer → d'.mixer = d.mixer ∧ d'.status = d.status) ∧
      ∀ {mixer'' : Mixer} {d₀'' : Device σ μ},
        Device.acquire config mixer'' card link = .ok d₀'' →
          (d₀''.play events).modem = d.modem := by
  intro d d'
  have hpassable := passable_acquire hopen hopen'
  have htwins : Twins Periphery.Passable d d' :=
    (twins_acquire hopen hopen' hpassable).play Periphery.kept_passable hevents
  have hmute : d'.routing.micMute = d.routing.micMute := htwins.periphery.micMute
  have hrouting := htwins.routing_eq hmute
  refine ⟨fun op => ?_, hrouting, htwins.card, htwins.loop, htwins.outputs, htwins.inputs,
    htwins.status hrouting, fun hmixer => ?_, fun {mixer'' d₀''} hopen'' => ?_⟩
  · exact (htwins.step_same Periphery.kept_passable hmute (.refl (fun _ => rfl) op)).answer
  · have hsame : d₀.periphery.SameCodec d₀'.periphery :=
      ⟨hpassable, by
        show d₀'.codec = d₀.codec
        rw [(acquire_spec hopen).2.2, (acquire_spec hopen').2.2, hmixer]⟩
    have hcodec : d'.codec = d.codec :=
      ((twins_acquire hopen hopen' hsame).play Periphery.kept_sameCodec hevents).periphery.codec
    exact ⟨congrArg Codec.mixer hcodec, htwins.status_eq hrouting hcodec⟩
  · have hsame : d₀.periphery.SameModem d₀''.periphery :=
      ⟨by
        have hclient := (acquire_client hopen'').2
        rw [(acquire_client hopen).2] at hclient
        exact (Except.ok.inj hclient).symm, (passable_acquire hopen hopen'').micMute⟩
    have hself : List.Forall₂ (Event.Matches Eq Eq) events events :=
      List.forall₂_same.2 fun e _ => .refl (fun _ => rfl) (fun _ => rfl) e
    exact ((twins_acquire hopen hopen'' hsame).play Periphery.kept_sameModem hself).periphery.modem

end

/-- A call during playback, once with everything in order and once on a codec that has one control,
of the wrong kind, and with a modem that cannot be reached at first and loses a request. -/
theorem contained_on_bare_mixer :
    let mixer : Mixer := ({} : Mixer).addLevel "Right Headphone Mux" 1 5
    let link : FlakyModem := { connects := [false], requests := [true, false] }
    let ops : List Operation := [
      .openOutput .speaker, .write 0 [1, 0, 2, 0], .setMode 2, .routeOutput .wiredHeadset,
      .write 0 [3, 0, 4, 0], .setMode 0]
    ∃ d₀' : Device SoftCard FlakyModem, Device.acquire {} mixer {} link = .ok d₀' ∧
      ((d₀'.play (ops.map .operation)).step (.write 0 [5, 0, 6, 0])).1.toOption =
        some (.taken 4) ∧
      (d₀'.play (ops.map .operation)).card = (inSoftware.play (ops.map .operation)).card ∧
      (d₀'.play (ops.map .operation)).routing.devices =
        (inSoftware.play (ops.map .operation)).routing.devices := by
  intro mixer link ops
  refine ⟨_, rfl, ?_⟩
  have hevents : List.Forall₂ (Event.Matches (σ := SoftCard) Eq fun _ _ => True)
      (ops.map (.operation (μ := ModemRecorder))) (ops.map (.operation (μ := FlakyModem))) := by
    refine List.forall₂_map_left_iff.2 (List.forall₂_map_right_iff.2 ?_)
    exact List.forall₂_same.2 fun op _ => .operation (.refl (fun _ => rfl) op)
  obtain ⟨hanswers, hrouting, hcard, -⟩ := faults_contained acquire_inSoftware rfl hevents
  refine ⟨?_, hcard, congrArg Routing.devices hrouting⟩
  rw [hanswers]
  decide +kernel

end Device

end HandsetAudio
