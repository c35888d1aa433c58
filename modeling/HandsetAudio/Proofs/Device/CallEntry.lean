import HandsetAudio.Proofs.Device.Substreams
import HandsetAudio.Proofs.Pcm.ScriptedCard

/-!
# Entering a call

Entering a call is six steps over the mixer, the streams, the modem and the card.
`CallEntered` says what they come to, from any state that a run leads to, and

> `setMode_enters_call`: they do come to it, with a voice loop if the card does not hinder
> it and without any if it does.
-/

namespace HandsetAudio

open PcmLedger

namespace Device

variable {σ μ : Type}

/-! ## The card before the voice loop -/

section

variable [PcmDriver σ] (d : Device σ μ)

/-- What standby of the active streams does to the card. -/
theorem card_standbyAll :
    d.standbyAll.card =
      ((d.activeInput?.bind d.capture?).elim id fun c => PcmDriver.close c.substream)
        ((d.activeOutput?.bind d.outputSubstream?).elim d.card fun id =>
          PcmDriver.close id d.card) := by
  have houtput : ∀ i, (d.standbyOutput i).card =
      (d.outputSubstream? i).elim d.card (PcmDriver.close · d.card) ∧
      (d.standbyOutput i).inputs = d.inputs ∧ (d.standbyOutput i).lastInput = d.lastInput := by
    intro i
    unfold standbyOutput
    cases d.outputSubstream? i <;> exact ⟨rfl, rfl, rfl⟩
  have hinput : ∀ (e : Device σ μ) i, (e.standbyInput i).card =
      (e.capture? i).elim e.card fun c => PcmDriver.close c.substream e.card := by
    intro e i
    unfold standbyInput
    cases e.capture? i <;> rfl
  unfold standbyAll
  cases d.activeOutput? with
  | none =>
    dsimp only
    cases d.activeInput? with
    | none => rfl
    | some j =>
      refine (hinput d j).trans ?_
      show _ = ((d.capture? j).elim id fun c => PcmDriver.close c.substream) d.card
      cases d.capture? j <;> rfl
  | some i =>
    obtain ⟨hcard, hinputs, hlast⟩ := houtput i
    have hactive : (d.standbyOutput i).activeInput? = d.activeInput? := by
      unfold activeInput?
      rw [hinputs, hlast]
    simp only [hactive]
    cases d.activeInput? with
    | none => exact hcard
    | some j =>
      have hcapture : (d.standbyOutput i).capture? j = d.capture? j := by
        unfold capture?
        rw [hinputs]
      refine (hinput _ j).trans ?_
      rw [hcapture, hcard]
      show _ = ((d.capture? j).elim id fun c => PcmDriver.close c.substream) _
      cases d.capture? j <;> rfl

/-- The routing facts do not matter to it. -/
theorem card_standbyAll_routing (routing : Routing) :
    (standbyAll { d with routing }).card = d.standbyAll.card := by
  rw [card_standbyAll, card_standbyAll]
  rfl

end

/-! ## The call -/

/-- What entering a call from `d` comes to. -/
structure CallEntered [PcmDriver σ] [PcmLedger σ] (d d' : Device σ ModemRecorder) : Prop where
  routing : d'.routing =
    { d.routing with mode := .inCall, devices := d.routing.devices.callEntry, inCall := true }
  hasOutput : d'.routing.devices.outputs.isEmpty = false
  offSpeaker : DeviceSet.speaker.intersects d'.routing.devices = false
  outputStandby : d'.outputStandby? = d.outputStandby?.map fun _ => true
  inputStandby : d'.inputStandby? = d.inputStandby?.map fun _ => true
  /-- Both paths are as an idle call wants them. -/
  inLine : ∀ p, (d'.codec.reconciler p).InLine ⟨.inCall, d.routing.devices.callEntry, false⟩
  /-- The modem, connected if it was not, is asked for these three things. -/
  requests : d'.modem.link.events = d.modem.link.events ++
    ((if d.modem.link.connected then [] else [.connected]) ++
      [.request (.path (d.routing.devices.callEntry.callPath d.routing.nrec)),
        .request (.clock .start),
        .request (.volume d.routing.devices.callEntry.soundCurve
          (volumeLevel d.routing.voiceVolume d.modem.volumeSteps))])
  /-- Streams are closed before the modem's lanes are opened. -/
  moves : ∃ closes opens, PcmLedger.moves d'.card = PcmLedger.moves d.card ++ (closes ++ opens) ∧
    (∀ e ∈ closes, ClosesStream e) ∧ ∀ e ∈ opens, VoiceLoop.OnModem e
  /-- If the card does not hinder it, the voice loop comes up. -/
  loopUp : VoiceLoop.Unhindered d.config.card d.standbyAll.card → d'.loop.isActive = true ∧
    openCount d'.card .downlink = 1 ∧ openCount d'.card .uplink = 1
  /-- If the card hinders it, nothing is open. -/
  loopDown : ¬VoiceLoop.Unhindered d.config.card d.standbyAll.card → d'.loop = {} ∧
    openCount d'.card .downlink = 0 ∧ openCount d'.card .uplink = 0

/-- What a device outside a call needs in order to enter one. -/
structure Ready [PcmLedger σ] (d : Device σ ModemRecorder) : Prop where
  mode : d.routing.mode ≠ .inCall
  idle : d.routing.inCall = false
  loop : d.loop = {}
  hasOutput : d.routing.devices.outputs.isEmpty = false
  owns : d.Owns
  accepting : d.modem.link.Accepting

/-- The device with the call mode set. -/
def inCallMode (d : Device σ μ) : Device σ μ :=
  { d with routing := { d.routing with mode := .inCall } }

/-- Outside a call, setting the call mode enters one. -/
theorem setMode_inCall [PcmDriver σ] [ModemLink μ] {d : Device σ μ}
    (hmode : d.routing.mode ≠ .inCall) (hidle : d.routing.inCall = false) :
    d.setMode .inCall = d.inCallMode.enterCall := by
  unfold Device.setMode
  rw [if_neg hmode, if_pos rfl]
  exact if_neg (by simp [hidle])

section

variable [PcmDriver σ] {d : Device σ ModemRecorder}

/-- The voice loop of a call is the one that its start leaves. -/
theorem loop_entered (h : d.loop = {}) : d.inCallMode.enterCall.loop =
    (VoiceLoop.start {} d.config.card d.standbyAll.card).2.1 := by
  have hcard : d.inCallMode.standbyAll.enterCallDevices.routeAll.card = d.standbyAll.card :=
    (samePcm_routeAll _).card.trans (d.card_standbyAll_routing _)
  have hloop : d.inCallMode.standbyAll.enterCallDevices.routeAll.loop = {} := by
    rw [loop_routeAll]
    exact d.inCallMode.sameCall_standbyAll.loop.trans h
  have hconfig : d.inCallMode.standbyAll.enterCallDevices.routeAll.config = d.config := by
    rw [config_routeAll]
    exact d.inCallMode.sameCall_standbyAll.config
  show d.inCallMode.standbyAll.enterCallDevices.routeAll.startLoop.loop = _
  rw [loop_startLoop, hcard, hloop, hconfig]

variable [PcmLedger σ] [LawfulLedger σ]

theorem Ready.entered (h : d.Ready) : d.CallEntered d.inCallMode.enterCall := by
  have hrouting := d.inCallMode.routing_enterCall
  have hregrouped := d.inCallMode.regrouped_enterCall
  have hline : ∀ p, d.inCallMode.enterCall.line p = (d.line p).standby := by
    intro p
    rw [hregrouped.line p]
    cases p <;> rfl
  have howns : d.inCallMode.Owns := h.owns
  obtain ⟨d₁, hclosed, hopened⟩ := d.inCallMode.deals_enterCall
  have hcounts := (hopened.owns (hclosed.owns howns)).openCount_modem
  have hcases := VoiceLoop.start_cases {} d.config.card d.standbyAll.card
  rw [← loop_entered h.loop] at hcases
  refine ⟨hrouting, ?_, ?_, ?_, ?_, fun p => ?_, ?_, ?_, fun hfree => ?_, fun hhindered => ?_⟩
  · rw [hrouting]
    exact DeviceSet.callEntry_outputs h.hasOutput
  · rw [hrouting]
    exact DeviceSet.callEntry_speaker _
  · rw [outputStandby?_eq, outputStandby?_eq, hline, Line.active?_standby]
    cases hactive : (d.line .output).active? with
    | none => rfl
    | some i => rw [Option.map_some, Line.running_standby hactive]; rfl
  · rw [inputStandby?_eq, inputStandby?_eq, hline, Line.active?_standby]
    cases hactive : (d.line .input).active? with
    | none => rfl
    | some i => rw [Option.map_some, Line.running_standby hactive]; rfl
  · have hinLine := hregrouped.inLine p
    rw [hline, Line.on_standby, facts, hrouting] at hinLine
    exact hinLine
  · have haccepting : d.inCallMode.modem.link.Accepting := h.accepting
    rw [d.inCallMode.modem_enterCall, ModemClient.sendAll_accepting haccepting]
    rfl
  · obtain ⟨closes, hcloses, htrade⟩ := hclosed
    obtain ⟨opens, hopens, htrade'⟩ := hopened
    exact ⟨closes, opens, ((htrade.trans htrade') howns).2, hcloses, hopens⟩
  · rcases hcases with ⟨-, down, up, hloop⟩ | ⟨hnot, -⟩
    · rw [hloop] at hcounts ⊢
      exact ⟨rfl, hcounts⟩
    · exact absurd hfree hnot
  · rcases hcases with ⟨hnot, -⟩ | ⟨-, hloop⟩
    · exact absurd hnot hhindered
    · rw [hloop] at hcounts
      exact ⟨hloop, hcounts⟩

/-- Outside a call, a device is ready for one. -/
theorem ready_play {config : Config} {mixer : Mixer} {card : σ} {link : ModemRecorder}
    {d₀ : Device σ ModemRecorder} (hopen : Device.acquire config mixer card link = .ok d₀)
    (hfree : ∀ lane, openCount card lane = 0) {events : List (Event σ ModemRecorder)}
    (hspares : ∀ e ∈ events, e.SparesCard) (haccepting : (d₀.play events).modem.link.Accepting)
    (hmode : (d₀.play events).routing.mode ≠ .inCall) : (d₀.play events).Ready := by
  have hidle : (d₀.play events).routing.inCall = false := by
    rw [← Bool.not_eq_true, inCall_iff_play hopen events]
    exact hmode
  exact ⟨hmode, hidle, loop_play hopen events hidle, outputs_play hopen events,
    owns_play hopen hfree hspares, haccepting⟩

/-- **Entering a call**: from every state that a run leads to outside a call, on any mixer,
any card that keeps account of its substreams and a modem that takes every request, setting
the call mode succeeds and comes to what `CallEntered` says. -/
theorem setMode_enters_call {config : Config} {mixer : Mixer} {card : σ} {link : ModemRecorder}
    {d₀ : Device σ ModemRecorder} (hopen : Device.acquire config mixer card link = .ok d₀)
    (hfree : ∀ lane, openCount card lane = 0) {events : List (Event σ ModemRecorder)}
    (hspares : ∀ e ∈ events, e.SparesCard) (haccepting : (d₀.play events).modem.link.Accepting)
    (hmode : (d₀.play events).routing.mode ≠ .inCall) :
    ((d₀.play events).step (.setMode 2)).1 = .ok .done ∧
      (d₀.play events).CallEntered ((d₀.play events).step (.setMode 2)).2 := by
  have hready := ready_play hopen hfree hspares haccepting hmode
  have hstep : (d₀.play events).step (.setMode 2) =
      (.ok .done, (d₀.play events).setMode .inCall) := rfl
  rw [hstep]
  refine ⟨rfl, ?_⟩
  show (d₀.play events).CallEntered ((d₀.play events).setMode .inCall)
  rw [setMode_inCall hready.mode hready.idle]
  exact hready.entered

end

/-- A device on a card that opens every substream and does not start the uplink. -/
def withoutUplink : Device ScriptedCard ModemRecorder :=
  (Device.acquire {} .ofTables { refuses := fun _ call => call = ⟨.start, .uplink⟩ }
    {}).toOption.get rfl

theorem acquire_withoutUplink : Device.acquire {} .ofTables
    ({ refuses := fun _ call => call = ⟨.start, .uplink⟩ } : ScriptedCard) {} = .ok withoutUplink :=
  rfl

/-- A call entered while music plays and the microphone records, on a card that refuses the
uplink; and one on a card that opens the uplink and does not start it. -/
theorem call_entered_without_loop :
    let events : List (Event SoftCard ModemRecorder) := [
      .operation (.openOutput .speaker),
      .operation (.write 0 [0, 0, 0, 0]),
      .operation (.openInput .builtinMic ⟨44100, 1⟩),
      .operation (.read 0 4),
      .card fun card => card.refuseLane .uplink]
    let d := (inSoftware.play events).step (.setMode 2)
    let d' := (withoutUplink.play []).step (.setMode 2)
    (d.1 = .ok .done ∧ d.2.outputStandby? = some true ∧ d.2.inputStandby? = some true ∧
      openCount d.2.card .downlink = 0) ∧
    d'.1 = .ok .done ∧ openCount d'.2.card .downlink = 0 ∧ openCount d'.2.card .uplink = 0 := by
  intro events d d'
  constructor
  · have hspares : ∀ e ∈ events, e.SparesCard := by
      intro e he
      simp only [events, List.mem_cons, List.not_mem_nil, or_false] at he
      rcases he with rfl | rfl | rfl | rfl | rfl
      · trivial
      · trivial
      · trivial
      · trivial
      · exact fun c => SoftCard.keeps_of_substreams rfl
    have haccepting : (inSoftware.play events).modem.link.Accepting := by
      constructor <;> decide +kernel
    have hmode : (inSoftware.play events).routing.mode ≠ .inCall := by decide +kernel
    have houtput : (inSoftware.play events).outputStandby? = some false := by decide +kernel
    have hinput : (inSoftware.play events).inputStandby? = some false := by decide +kernel
    have hhindered : ¬VoiceLoop.Unhindered (inSoftware.play events).config.card
        (inSoftware.play events).standbyAll.card := by
      rw [SoftCard.unhindered_iff]
      decide +kernel
    obtain ⟨hok, hentered⟩ :=
      setMode_enters_call acquire_inSoftware (fun _ => rfl) hspares haccepting hmode
    refine ⟨hok, ?_, ?_, (hentered.loopDown hhindered).2.1⟩
    · rw [hentered.outputStandby, houtput]
      rfl
    · rw [hentered.inputStandby, hinput]
      rfl
  · have hspares : ∀ e ∈ ([] : List (Event ScriptedCard ModemRecorder)), e.SparesCard :=
      fun _ he => (nomatch he)
    have haccepting : (withoutUplink.play []).modem.link.Accepting := ⟨rfl, rfl⟩
    have hmode : (withoutUplink.play []).routing.mode ≠ .inCall := by decide +kernel
    have hhindered : ¬VoiceLoop.Unhindered (withoutUplink.play []).config.card
        (withoutUplink.play []).standbyAll.card := by
      decide +kernel
    obtain ⟨hok, hentered⟩ :=
      setMode_enters_call acquire_withoutUplink (fun _ => rfl) hspares haccepting hmode
    exact ⟨hok, (hentered.loopDown hhindered).2⟩

end Device

end HandsetAudio
