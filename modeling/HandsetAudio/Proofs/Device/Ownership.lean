import HandsetAudio.Proofs.Device.Turns
import HandsetAudio.Proofs.Pcm.Loop

/-!
# Who owns the substreams

Every open substream of the card belongs to a stream of the device or to its voice loop
(`Owns`): streams open and close on their own lane, and the voice loop on those of the
modem. Main statement:

> `owns_play`: that holds throughout every run, whatever fails on the way, as long as
> nobody else opens or closes substreams of the card.
-/

namespace HandsetAudio

open PcmLedger

/-- The holdings of a list change with the element that is replaced. -/
theorem sum_map_modify {α : Type} (g : α → Holdings) (f : α → α) {l : List α} {i : Nat} {a : α}
    (h : l[i]? = some a) :
    ((l.modify i f).map g).sum + g a = (l.map g).sum + g (f a) := by
  induction l generalizing i with
  | nil => cases h
  | cons b l ih =>
    cases i with
    | zero =>
      obtain rfl : b = a := by simpa using h
      simp only [List.modify_zero_cons, List.map_cons, List.sum_cons]
      ac_rfl
    | succ i =>
      have hrest := ih (i := i) (by simpa using h)
      simp only [List.modify_succ_cons, List.map_cons, List.sum_cons]
      rw [add_assoc, hrest, add_assoc]

namespace Device

variable {σ μ : Type}

/-- The substream of a playback stream. -/
def ofOutput (s : OutputStream) : Holdings := holding s.substream .hifiPlayback

/-- The substream of a capture stream. -/
def ofInput (s : InputStream) : Holdings := holding s.substream .hifiCapture

/-- The substreams of all streams. -/
def streamHoldings (d : Device σ μ) : Holdings :=
  (d.outputs.map ofOutput).sum + (d.inputs.map ofInput).sum

/-- The substreams of the device. -/
def holdings (d : Device σ μ) : Holdings := d.loop.holdings + d.streamHoldings

/-- All open substreams of the card are the device's. -/
def Owns [PcmLedger σ] (d : Device σ μ) : Prop := Accounts d.card d.holdings

/-- From `d` to `d'` only moves as `P` says are made, and all of them are accounted for. -/
def Deals [PcmLedger σ] (P : PcmEvent → Prop) (d d' : Device σ μ) : Prop :=
  Deal P d.card d.holdings d'.card d'.holdings

/-- The event neither opens nor closes substreams behind the device's back. -/
def Event.SparesCard [PcmLedger σ] : Event σ μ → Prop
  | .card change => ∀ c, Keeps c (change c)
  | _ => True

/-- On a card where nothing is open, a device starts with nothing. -/
theorem owns_acquire [PcmLedger σ] [ModemLink μ] {d : Device σ μ} {config : Config}
    {mixer : Mixer} {card : σ} {link : μ} (hopen : Device.acquire config mixer card link = .ok d)
    (hfree : ∀ lane, openCount card lane = 0) : d.Owns := by
  obtain ⟨hcard, hloop, houtputs, hinputs⟩ := acquire_pcm hopen
  have hnothing : d.holdings = 0 := by
    rw [holdings, streamHoldings, hloop, houtputs, hinputs, VoiceLoop.holdings_empty]
    rfl
  unfold Owns
  rw [hcard, hnothing]
  exact ⟨fun s hs => absurd hs (Multiset.notMem_zero s), Multiset.nodup_zero, fun lane => by
    rw [hfree, Holdings.on_zero]; rfl⟩

/-! ## What the card does not hear of -/

/-- Card, streams and voice loop are as they were. -/
structure SamePcm (d d' : Device σ μ) : Prop where
  card : d'.card = d.card
  holdings : d'.holdings = d.holdings

theorem SamePcm.refl (d : Device σ μ) : d.SamePcm d := ⟨rfl, rfl⟩

theorem SamePcm.trans {d d' d'' : Device σ μ} (h : d.SamePcm d') (h' : d'.SamePcm d'') :
    d.SamePcm d'' := ⟨h'.card.trans h.card, h'.holdings.trans h.holdings⟩

/-- Where nothing is owned or given up, nothing is dealt. -/
theorem SamePcm.deals [PcmLedger σ] {d d' : Device σ μ} {P : PcmEvent → Prop} (h : d.SamePcm d') :
    Deals P d d' := by
  unfold Deals
  rw [h.card, h.holdings]
  exact (Calm.refl d.card).deal d.holdings

/-- A pass works on the codec. -/
theorem samePcm_converge (d : Device σ μ) (p : Path) (on : Bool) : d.SamePcm (d.converge p on) := by
  cases p <;> exact ⟨rfl, rfl⟩

theorem samePcm_forgetOutput (d : Device σ μ) (i : StreamId) : d.SamePcm (d.forgetOutput i) := by
  unfold forgetOutput
  split <;> exact ⟨rfl, rfl⟩

theorem samePcm_forgetInput (d : Device σ μ) (i : StreamId) : d.SamePcm (d.forgetInput i) := by
  unfold forgetInput
  split <;> exact ⟨rfl, rfl⟩

/-- A stream is opened in standby. -/
theorem samePcm_openOutput (d : Device σ μ) : d.SamePcm d.openOutput.2 := by
  unfold openOutput
  split
  next => exact .refl d
  next =>
    refine ⟨rfl, ?_⟩
    simp [holdings, streamHoldings, ofOutput]

/-- A stream is opened in standby, so it owns nothing. -/
theorem samePcm_openInput (d : Device σ μ) (format : StreamFormat) :
    d.SamePcm (d.openInput format).2 := by
  unfold openInput
  split
  next => exact .refl d
  next =>
    split
    next => exact .refl d
    next =>
      refine ⟨rfl, ?_⟩
      simp [holdings, streamHoldings, ofInput]

theorem samePcm_rerouteInput (d : Device σ μ) (devices : DeviceSet) (on : Bool) :
    d.SamePcm (d.rerouteInput devices on) := by
  unfold rerouteInput
  simp only
  split
  next => exact .refl d
  next =>
    have hrouted : ∀ routing, d.SamePcm { d with routing } := fun _ => ⟨rfl, rfl⟩
    exact (hrouted _).trans (samePcm_converge _ .input on)

section

variable [ModemLink μ]

/-- A rerouting works on the codec and the modem. -/
theorem samePcm_rerouteOutput (d : Device σ μ) (devices : DeviceSet) (on : Bool) :
    d.SamePcm (d.rerouteOutput devices on) := by
  unfold rerouteOutput
  simp only
  split
  next => exact .refl d
  next => split <;> exact ⟨rfl, rfl⟩

theorem samePcm_setParameters (d : Device σ μ) (text : String) :
    d.SamePcm (d.setParameters text) := by
  unfold setParameters
  split
  next => exact .refl d
  next value _ =>
    simp only
    split
    next => exact .refl d
    next => split <;> exact ⟨rfl, rfl⟩

theorem samePcm_setVoiceVolume (d : Device σ μ) (volume : Float32) :
    d.SamePcm (d.setVoiceVolume volume).2 := by
  unfold setVoiceVolume
  split
  next =>
    simp only
    split <;> exact ⟨rfl, rfl⟩
  next => exact .refl d

/-- So do both passes at the start and the end of a call. -/
theorem samePcm_routeAll (d : Device σ μ) : d.SamePcm d.routeAll := by
  unfold routeAll
  have hconverged := (d.samePcm_converge .output d.outputOn).trans
    (samePcm_converge _ .input d.inputOn)
  exact hconverged.trans ⟨rfl, rfl⟩

end

/-! ## Transfers -/

section

variable [PcmDriver σ]

/-- What no read of a substream ends, filling up from it does not end. -/
theorem fillPending_keeps {P : σ → Prop} {id : SubstreamId}
    (hread : ∀ length c, P c → P (PcmDriver.read id length c).2) (period wanted fuel : Nat)
    (r : Resampler) (pending : List Sample) {c : σ} (h : P c) :
    P (fillPending id period wanted fuel r pending c).2.2.2 := by
  induction fuel generalizing r pending c with
  | zero => exact h
  | succ fuel ih =>
    have hnext := hread period c h
    unfold fillPending
    split
    next => exact h
    next =>
      split
      next e c' hresult =>
        rw [hresult] at hnext
        exact hnext
      next bytes c' hresult =>
        rw [hresult] at hnext
        exact ih _ _ hnext

/-- What no read of a substream ends, taking bytes from a running capture does not end. -/
theorem readCapture_keeps {P : σ → Prop} {capture : Capture}
    (hread : ∀ length c, P c → P (PcmDriver.read capture.substream length c).2)
    (config : PcmConfig) (length : Nat) {c : σ} (h : P c) :
    P (readCapture config capture length c).2.2 := by
  unfold readCapture
  split
  next => exact h
  next =>
    split
    next => exact hread length c h
    next r _ =>
      have hfill := fillPending_keeps hread (config.periodSize * config.frameBytes) (length / 2)
        (length / 2) r capture.pending h
      simp only
      split
      next e r' pending c' hresult =>
        rw [hresult] at hfill
        exact hfill
      next r' pending c' hresult =>
        rw [hresult] at hfill
        exact hfill

variable [PcmLedger σ] [LawfulLedger σ]

/-- Waiting opens and closes nothing. -/
theorem calm_pace (id : SubstreamId) (fuel : Nat) (c : σ) : Calm c (pace id fuel c) := by
  induction fuel generalizing c with
  | zero => exact .refl c
  | succ fuel ih =>
    have havail := LawfulLedger.avail id c
    unfold pace
    split
    next c' hresult =>
      rw [hresult] at havail
      exact havail
    next free c' hresult =>
      rw [hresult] at havail
      split
      next => exact havail
      next => exact havail.trans (ih c')

/-- A read of a running stream opens and closes nothing, whether it fails or not. -/
theorem calm_readCapture (config : PcmConfig) (capture : Capture) (length : Nat) (c : σ) :
    Calm c (readCapture config capture length c).2.2 :=
  readCapture_keeps (P := Calm c) (fun length c' hc => hc.trans (LawfulLedger.read _ length c'))
    config length (.refl c)

end

/-! ## Streams -/

/-- The stream that a substream belongs to. -/
theorem outputSubstream?_eq_some {d : Device σ μ} {i : StreamId} {id : SubstreamId}
    (h : d.outputSubstream? i = some id) : ∃ s, d.outputs[i]? = some s ∧ s.substream = some id :=
  Option.bind_eq_some_iff.1 h

/-- The stream that captures. -/
theorem capture?_eq_some {d : Device σ μ} {i : StreamId} {c : Capture}
    (h : d.capture? i = some c) : ∃ s, d.inputs[i]? = some s ∧ s.running = some c :=
  Option.bind_eq_some_iff.1 h

theorem heldOutput?_eq_some {d : Device σ μ} {i : StreamId} {s : OutputStream}
    (h : d.heldOutput? i = some s) : d.outputs[i]? = some s := (Option.filter_eq_some_iff.1 h).1

theorem heldInput?_eq_some {d : Device σ μ} {i : StreamId} {s : InputStream}
    (h : d.heldInput? i = some s) : d.inputs[i]? = some s := (Option.filter_eq_some_iff.1 h).1

/-- A stream that was started is as it was, but for what runs. -/
theorem getElem?_ensureInput [PcmDriver σ] {d d' : Device σ μ} {i : StreamId} {s : InputStream}
    (hs : d.inputs[i]? = some s) {c : Capture} (h : d.ensureInput i s = (.ok c, d')) :
    d'.inputs[i]? = some (s.put (some c)) := by
  unfold ensureInput at h
  split at h
  next c' hc =>
    obtain ⟨t, ht, hrunning⟩ := capture?_eq_some hc
    obtain rfl := Option.some.inj (hs.symm.trans ht)
    obtain ⟨hresult, rfl⟩ := Prod.mk.inj h
    rw [hs, ← Except.ok.inj hresult, ← hrunning, s.put_running]
  next =>
    unfold startInput at h
    simp only at h
    split at h
    next id card _ =>
      obtain ⟨hresult, rfl⟩ := Prod.mk.inj h
      obtain rfl := Except.ok.inj hresult
      have hsame : (d.converge .input true).inputs[i]? = some s := hs
      simp [setInput, hsame]
    next => cases h

/-- A capture stream that was started is the one that runs. -/
theorem capture?_ensureInput [PcmDriver σ] (d : Device σ μ) {i : StreamId} {s : InputStream}
    (hs : d.inputs[i]? = some s) {c : Capture} {d' : Device σ μ}
    (h : d.ensureInput i s = (.ok c, d')) : d'.capture? i = some c := by
  rw [capture?, getElem?_ensureInput hs h, Option.bind_some, InputStream.running_put]

/-- What a read leaves of a running capture has the same substream. -/
theorem substream_readCapture [PcmDriver σ] {config : PcmConfig} {c c' : Capture} {length : Nat}
    {card card' : σ} {answer : Except PcmError (List UInt8)}
    (h : readCapture config c length card = (answer, c', card')) :
    c'.substream = c.substream := by
  have hsame : (readCapture config c length card).2.1.substream = c.substream := by
    unfold readCapture
    split
    next => rfl
    next =>
      split
      next => rfl
      next =>
        simp only
        split <;> rfl
  rwa [h] at hsame

section

variable (d : Device σ μ) {i : StreamId}

/-- A stream that changes gives up what it owned, for what it owns then. -/
theorem holdings_modifyOutput (f : OutputStream → OutputStream) {s : OutputStream}
    (h : d.outputs[i]? = some s) :
    holdings { d with outputs := d.outputs.modify i f } + ofOutput s =
      d.holdings + ofOutput (f s) := by
  have hsum := sum_map_modify ofOutput f h
  have hswap : ∀ a b c e : Holdings, a + (b + c) + e = a + ((b + e) + c) := by
    intro a b c e
    ac_rfl
  simp only [holdings, streamHoldings]
  rw [hswap, hsum, ← hswap]

/-- The same for a capture stream. -/
theorem holdings_modifyInput (f : InputStream → InputStream) {s : InputStream}
    (h : d.inputs[i]? = some s) :
    holdings { d with inputs := d.inputs.modify i f } + ofInput s =
      d.holdings + ofInput (f s) := by
  have hsum := sum_map_modify ofInput f h
  simp only [holdings, streamHoldings]
  rw [add_assoc, add_assoc, hsum, ← add_assoc, ← add_assoc, add_assoc d.loop.holdings]

/-- A stream that is dropped gives up its substream. -/
theorem holdings_dropOutput [PcmDriver σ] (i : StreamId) :
    (d.dropOutput i).holdings + holding (d.outputSubstream? i) .hifiPlayback = d.holdings := by
  unfold outputSubstream?
  cases hs : d.outputs[i]? with
  | none =>
    have hsame : (d.dropOutput i).outputs = d.outputs :=
      List.modify_eq_self (List.getElem?_eq_none_iff.1 hs)
    rw [Option.bind_none, holding_none, add_zero, holdings, streamHoldings, hsame]
    rfl
  | some s =>
    have hholdings := d.holdings_modifyOutput (fun _ => { held := false, substream := none }) hs
    rw [ofOutput, ofOutput, holding_none, add_zero] at hholdings
    exact hholdings

/-- So does a capture stream. -/
theorem holdings_dropInput [PcmDriver σ] (i : StreamId) : (d.dropInput i).holdings +
    holding ((d.capture? i).map (·.substream)) .hifiCapture = d.holdings := by
  unfold capture?
  cases hs : d.inputs[i]? with
  | none =>
    have hsame : (d.dropInput i).inputs = d.inputs :=
      List.modify_eq_self (List.getElem?_eq_none_iff.1 hs)
    rw [Option.bind_none, Option.map_none, holding_none, add_zero, holdings, streamHoldings, hsame]
    rfl
  | some s =>
    have hholdings := d.holdings_modifyInput (fun s => { s.put none with held := false }) hs
    rw [ofInput, ofInput, InputStream.substream_put, Option.map_none, holding_none, add_zero]
      at hholdings
    rw [Option.bind_some, s.map_running]
    exact hholdings

/-- The converter and the pending samples of a capture change, the substream does not. -/
theorem samePcm_setInput [PcmDriver σ] {c c' : Capture} (hc : d.capture? i = some c)
    (hsubstream : c'.substream = c.substream) : d.SamePcm (d.setInput i (some c')) := by
  obtain ⟨s, hs, hrunning⟩ := capture?_eq_some hc
  have hholdings := d.holdings_modifyInput (·.put (some c')) hs
  rw [ofInput, ofInput, ← s.map_running, hrunning, InputStream.substream_put, Option.map_some,
    Option.map_some, hsubstream] at hholdings
  exact ⟨rfl, add_right_cancel hholdings⟩

end

section

variable [PcmLedger σ] {d d' : Device σ μ} {P Q : PcmEvent → Prop} {id : SubstreamId} {lane : Lane}

/-- Steps of a device in a row. -/
theorem Deals.trans {d'' : Device σ μ} (h : Deals P d d') (h' : Deals P d' d'') : Deals P d d'' :=
  Deal.trans h h'

theorem Deals.mono (h : Deals P d d') (hPQ : ∀ e, P e → Q e) : Deals Q d d' := Deal.mono h hPQ

/-- Whoever owned all open substreams before owns all of them after. -/
theorem Deals.owns (h : Deals P d d') (howns : d.Owns) : d'.Owns := Deal.accounts h howns

theorem Deals.gate (b : Bool) (h : Deals P d d') : Deals P d (if b then d' else d) := by
  cases b with
  | true => exact h
  | false => exact (SamePcm.refl d).deals

/-- The card alone changes, and nothing is opened or closed on it. -/
theorem deals_calm {c : σ} (h : Calm d.card c) : Deals P d { d with card := c } := h.deal d.holdings

/-- A card that opens and closes nothing changes no owner. -/
theorem Owns.withCard {card : σ} (h : d.Owns) (hcalm : Calm d.card card) :
    Owns { d with card } := (deals_calm (P := fun _ => True) hcalm).owns h

/-- The move is on a lane. -/
def MovesOn (lane : Lane) (e : PcmEvent) : Prop := e.lane = lane

/-- The move closes a substream on a lane. -/
def ClosesOn (lane : Lane) (e : PcmEvent) : Prop := e = ⟨.closed, lane⟩

theorem ClosesOn.movesOn {e : PcmEvent} (h : ClosesOn lane e) : MovesOn lane e := congrArg _ h

/-- The move closes the substream of a stream. -/
def ClosesStream (e : PcmEvent) : Prop := e.action = .closed ∧ e.lane.interface = .hifi

/-- Closing on the playback lane is closing a stream's substream. -/
theorem closesStream_playback {e : PcmEvent} (h : ClosesOn .hifiPlayback e) : ClosesStream e := by
  rw [h]
  exact ⟨rfl, rfl⟩

theorem closesStream_capture {e : PcmEvent} (h : ClosesOn .hifiCapture e) : ClosesStream e := by
  rw [h]
  exact ⟨rfl, rfl⟩

/-- The device opens a substream and keeps it. -/
theorem deals_open (h : Opens d.card id lane d'.card)
    (hholdings : d'.holdings = d.holdings + {(id, lane)}) : Deals (MovesOn lane) d d' := by
  have hP : MovesOn lane ⟨.opened, lane⟩ := rfl
  unfold Deals
  rw [hholdings, add_comm]
  exact h.deal hP d.holdings

/-- An open that fails leaves all to their owners. -/
theorem deals_fail (h : Fails d.card lane d'.card) (hholdings : d'.holdings = d.holdings) :
    Deals (MovesOn lane) d d' := by
  have hP : MovesOn lane ⟨.opened, lane⟩ := rfl
  unfold Deals
  rw [hholdings]
  exact h.deal hP d.holdings

variable [PcmDriver σ] [LawfulLedger σ]

/-- The device gives up a substream, if there is one, and closes it. -/
theorem deals_giveUp {id : Option SubstreamId}
    (hcard : d'.card = id.elim d.card (PcmDriver.close · d.card))
    (hholdings : d'.holdings + holding id lane = d.holdings) : Deals (ClosesOn lane) d d' := by
  cases id with
  | none =>
    rw [holding_none, add_zero] at hholdings
    exact SamePcm.deals ⟨hcard, hholdings⟩
  | some id =>
    have hP : ClosesOn lane ⟨.closed, lane⟩ := rfl
    unfold Deals
    rw [hcard, ← hholdings, add_comm]
    exact deal_close d.card id hP d'.holdings

variable (d) (i : StreamId)

/-- Standby closes the stream's own substream, if it has one. -/
theorem deals_standbyOutput : Deals (ClosesOn .hifiPlayback) d (d.standbyOutput i) := by
  unfold standbyOutput
  split
  next => exact (SamePcm.refl d).deals
  next id hsub =>
    obtain ⟨s, hs, hid⟩ := outputSubstream?_eq_some hsub
    have hholdings := d.holdings_modifyOutput (fun s => { s with substream := none }) hs
    rw [ofOutput, hid, ofOutput, holding_none, add_zero] at hholdings
    have hclosed : Deals (ClosesOn .hifiPlayback) d
        ({ d with card := PcmDriver.close id d.card }.setOutput i none) :=
      deals_giveUp rfl hholdings
    exact hclosed.trans (samePcm_converge _ .output false).deals

/-- So does standby of a capture stream. -/
theorem deals_standbyInput : Deals (ClosesOn .hifiCapture) d (d.standbyInput i) := by
  unfold standbyInput
  split
  next => exact (SamePcm.refl d).deals
  next c hsub =>
    obtain ⟨s, hs, hc⟩ := capture?_eq_some hsub
    have hholdings := d.holdings_modifyInput (·.put none) hs
    rw [ofInput, ← s.map_running, hc, ofInput, InputStream.substream_put, Option.map_none,
      holding_none, add_zero] at hholdings
    have hclosed : Deals (ClosesOn .hifiCapture) d
        ({ d with card := PcmDriver.close c.substream d.card }.setInput i none) :=
      deals_giveUp rfl hholdings
    exact hclosed.trans (samePcm_converge _ .input false).deals

/-- A stream that is dropped closes its substream, too. -/
theorem deals_dropOutput : Deals (ClosesOn .hifiPlayback) d (d.dropOutput i) := by
  refine deals_giveUp ?_ (d.holdings_dropOutput i)
  unfold dropOutput
  cases d.outputSubstream? i <;> rfl

theorem deals_dropInput : Deals (ClosesOn .hifiCapture) d (d.dropInput i) := by
  refine deals_giveUp ?_ (d.holdings_dropInput i)
  unfold dropInput
  cases d.capture? i <;> rfl

theorem deals_closeOutput : Deals (ClosesOn .hifiPlayback) d (d.closeOutput i) :=
  (d.deals_standbyOutput i).trans (samePcm_forgetOutput _ i).deals

theorem deals_closeInput : Deals (ClosesOn .hifiCapture) d (d.closeInput i) :=
  (d.deals_standbyInput i).trans (samePcm_forgetInput _ i).deals

variable {i}

/-- A stream in standby opens a substream and keeps it, or does neither. -/
theorem deals_ensureOutput {s : OutputStream} (hs : d.outputs[i]? = some s) :
    Deals (MovesOn .hifiPlayback) d (d.ensureOutput i).2 := by
  unfold ensureOutput
  split
  next => exact (SamePcm.refl d).deals
  next hsub =>
    have hid : s.substream = none := by simpa [outputSubstream?, hs] using hsub
    have hpowered := d.samePcm_converge .output true
    refine hpowered.deals.trans ?_
    unfold startOutput
    simp only
    split
    next id c hresult =>
      have hholdings := (d.converge .output true).holdings_modifyOutput
        (fun s => { s with substream := some id }) hs
      rw [ofOutput, hid, ofOutput, holding_none, add_zero] at hholdings
      exact deals_open (LawfulLedger.acquire_ok hresult) hholdings
    next e c hresult =>
      have hfailed : Deals (MovesOn .hifiPlayback) (d.converge .output true)
          { d.converge .output true with card := c } :=
        deals_fail (LawfulLedger.acquire_error hresult) rfl
      exact hfailed.trans ((samePcm_converge _ .output false).trans ⟨rfl, rfl⟩).deals

/-- A start opens one substream for its stream, or none at all. -/
theorem deals_ensureInput {s : InputStream} (hs : d.inputs[i]? = some s) :
    Deals (MovesOn .hifiCapture) d (d.ensureInput i s).2 := by
  unfold ensureInput
  split
  next => exact (SamePcm.refl d).deals
  next hsub =>
    have hc : s.running = none := by simpa [capture?, hs] using hsub
    have hpowered := d.samePcm_converge .input true
    refine hpowered.deals.trans ?_
    unfold startInput
    simp only
    split
    next id card hresult =>
      let c : Capture := { substream := id, resampler := resamplerFor s.format, pending := [] }
      have hholdings := (d.converge .input true).holdings_modifyInput (·.put (some c)) hs
      rw [ofInput, InputStream.running_eq_none.1 hc, ofInput, holding_none, add_zero] at hholdings
      exact deals_open (LawfulLedger.acquire_ok hresult) hholdings
    next e card hresult =>
      have hfailed : Deals (MovesOn .hifiCapture) (d.converge .input true)
          { d.converge .input true with card } :=
        deals_fail (LawfulLedger.acquire_error hresult) rfl
      exact hfailed.trans ((samePcm_converge _ .input false).trans ⟨rfl, rfl⟩).deals

variable (i)

/-- A write may start its stream, and a failed one puts it in standby. -/
theorem deals_writeOutput (bytes : List UInt8) :
    Deals (MovesOn .hifiPlayback) d (d.writeOutput i bytes).2 := by
  refine writeOutput_induction (SamePcm.refl d).deals
    (fun s hheld => d.deals_ensureOutput (heldOutput?_eq_some hheld))
    (fun s id d' _ _ hstarted => ?_) fun e hdone => ?_
  · have hpace := calm_pace id (PcmDriver.patience id d'.card + 1) d'.card
    have hwrite := LawfulLedger.write id bytes
      (pace id (PcmDriver.patience id d'.card + 1) d'.card)
    exact hstarted.trans (deals_calm (hpace.trans hwrite))
  · exact hdone.trans ((e.deals_standbyOutput i).mono fun _ => ClosesOn.movesOn)

/-- So may a read. -/
theorem deals_readInput (length : Nat) :
    Deals (MovesOn .hifiCapture) d (d.readInput i length).2 := by
  refine readInput_induction (SamePcm.refl d).deals
    (fun s hheld => d.deals_ensureInput (heldInput?_eq_some hheld))
    (fun s c d' _ _ hstarted => ?_) (fun s c d' answer c' card hheld hresult htaken hread => ?_)
    fun e hdone => ?_
  · exact hstarted.trans (deals_calm (calm_readCapture s.config c length d'.card))
  · have hrunning := d.capture?_ensureInput (heldInput?_eq_some hheld) hresult
    exact hread.trans (samePcm_setInput { d' with card } hrunning
      (substream_readCapture htaken)).deals
  · exact hdone.trans ((e.deals_standbyInput i).mono fun _ => ClosesOn.movesOn)

/-! ## Calls -/

/-- All streams in standby: only substreams of streams are closed. -/
theorem deals_standbyAll : Deals ClosesStream d d.standbyAll :=
  standbyAll_induction (SamePcm.refl d).deals
    (fun e i h => h.trans ((e.deals_standbyOutput i).mono fun _ => closesStream_playback))
    (fun e i h => h.trans ((e.deals_standbyInput i).mono fun _ => closesStream_capture))

/-- The loop owns both its ends or none. -/
theorem deals_startLoop : Deals VoiceLoop.OnModem d d.startLoop := by
  have hstart := d.loop.deal_start d.config.card d.card d.streamHoldings
  unfold startLoop
  split
  next loop card hresult =>
    rw [hresult] at hstart
    exact hstart
  next e loop card hresult =>
    rw [hresult] at hstart
    exact hstart

/-- A loop that is stopped gives up both. -/
theorem deals_stopLoop : Deals VoiceLoop.OnModem d d.stopLoop := by
  have hstop := d.loop.deal_stop d.card d.streamHoldings
  have hnothing : d.stopLoop.holdings = d.streamHoldings := by
    rw [← zero_add d.streamHoldings, ← VoiceLoop.holdings_empty]
    rfl
  unfold Deals
  rw [hnothing]
  exact hstop

variable [ModemLink μ]

/-- Entering a call closes streams first, and turns to the modem's lanes then. -/
theorem deals_enterCall :
    ∃ d₁, Deals ClosesStream d d₁ ∧ Deals VoiceLoop.OnModem d₁ d.enterCall := by
  refine ⟨d.standbyAll.enterCallDevices.routeAll, ?_, ?_⟩
  · have hleft : d.standbyAll.SamePcm d.standbyAll.enterCallDevices := ⟨rfl, rfl⟩
    exact d.deals_standbyAll.trans (hleft.trans (samePcm_routeAll _)).deals
  · unfold enterCall
    exact (deals_startLoop _).trans (SamePcm.deals ⟨rfl, rfl⟩)

/-- **A call** that starts or ends leaves every open substream with one owner. -/
theorem owns_setMode (h : d.Owns) (mode : Mode) : (d.setMode mode).Owns := by
  have hmode : SamePcm d { d with routing := { d.routing with mode } } := ⟨rfl, rfl⟩
  have howns := (hmode.deals (P := fun _ => True)).owns h
  unfold setMode
  split
  next => exact h
  next =>
    simp only
    split
    next =>
      split
      next => exact howns
      next =>
        obtain ⟨d₁, hclosed, hopened⟩ :=
          deals_enterCall { d with routing := { d.routing with mode } }
        exact hopened.owns (hclosed.owns howns)
    next =>
      split
      next =>
        unfold leaveCall
        have hstopped := (deals_stopLoop
          ({ d with routing := { d.routing with mode } }.setInCall false)).owns howns
        have hrested := (deals_standbyAll _).owns hstopped
        have hrouted := (samePcm_routeAll _).deals (P := fun _ => True) |>.owns hrested
        exact hrouted
      next => exact howns

/-! ## Runs -/

variable {d}

/-- **Each operation** leaves all open substreams with the device. -/
theorem Owns.step (h : d.Owns) (op : Operation) : (d.step op).2.Owns := by
  have hsame : ∀ {d' : Device σ μ}, d.SamePcm d' → d'.Owns := fun hd =>
    (hd.deals (P := fun _ => True)).owns h
  cases op with
  | check | setMasterVolume | micMute | parameters | captureBuffer => exact h
  | isStandbyOutput i | outputParameters i | setOutputVolume i | renderPosition i | latency i =>
    simp only [Device.step, onOutput_snd, ite_self]
    exact h
  | isStandbyInput i | inputParameters i | setInputGain i | lostFrames i =>
    simp only [Device.step, onInput_snd, ite_self]
    exact h
  | setMicMute on => exact hsame ⟨rfl, rfl⟩
  | setParameters text => exact hsame (d.samePcm_setParameters text)
  | setVoiceVolume volume =>
    rw [step_setVoiceVolume_snd]
    exact hsame (d.samePcm_setVoiceVolume volume)
  | setMode code =>
    simp only [Device.step]
    cases Mode.ofCode? code with
    | none => exact h
    | some mode => exact d.owns_setMode h mode
  | routeOutput devices => exact hsame (d.samePcm_rerouteOutput devices _)
  | openOutput _ =>
    rw [step_openOutput_snd]
    exact hsame d.samePcm_openOutput
  | openInput _ format =>
    rw [step_openInput_snd]
    exact hsame (d.samePcm_openInput format)
  | closeOutput i =>
    simp only [Device.step, onOutput_snd]
    exact ((d.deals_closeOutput i).gate _).owns h
  | closeInput i =>
    simp only [Device.step, onInput_snd]
    exact ((d.deals_closeInput i).gate _).owns h
  | dropOutput i =>
    simp only [Device.step, onOutput_snd]
    exact ((d.deals_dropOutput i).gate _).owns h
  | dropInput i =>
    simp only [Device.step, onInput_snd]
    exact ((d.deals_dropInput i).gate _).owns h
  | standbyOutput i =>
    simp only [Device.step, onOutput_snd]
    exact ((d.deals_standbyOutput i).gate _).owns h
  | standbyInput i =>
    simp only [Device.step, onInput_snd]
    exact ((d.deals_standbyInput i).gate _).owns h
  | write i bytes =>
    rw [step_write_snd]
    exact (d.deals_writeOutput i bytes).owns h
  | read i length =>
    rw [step_read_snd]
    exact (d.deals_readInput i length).owns h
  | setOutputParameters i text =>
    simp only [Device.step, onOutput_snd]
    split
    next =>
      unfold setOutputParameters
      split
      next => exact h
      next devices _ => exact hsame (d.samePcm_rerouteOutput devices _)
    next => exact h
  | setInputParameters i text =>
    simp only [Device.step, onInput_snd]
    split
    next =>
      unfold setInputParameters
      split
      next => exact h
      next devices _ => exact hsame (d.samePcm_rerouteInput devices _)
    next => exact h

/-- **Each run** leaves all open substreams with the device. -/
theorem Owns.play (h : d.Owns) {events : List (Event σ μ)}
    (hspares : ∀ e ∈ events, e.SparesCard) : (d.play events).Owns := by
  induction events generalizing d with
  | nil => exact h
  | cons e events ih =>
    have hfirst : e.SparesCard := hspares e List.mem_cons_self
    have hrest : ∀ e ∈ events, e.SparesCard := fun e he => hspares e (List.mem_cons_of_mem _ he)
    refine ih (d := d.happen e) ?_ hrest
    cases e with
    | operation op => exact h.step op
    | card change => exact Accounts.keeps h (hfirst d.card)
    | modem change => exact h

/-- On a card where nothing was open, all that is open is the device's. -/
theorem owns_play {config : Config} {mixer : Mixer} {card : σ} {link : μ} {d₀ : Device σ μ}
    (hopen : Device.acquire config mixer card link = .ok d₀)
    (hfree : ∀ lane, openCount card lane = 0) {events : List (Event σ μ)}
    (hspares : ∀ e ∈ events, e.SparesCard) : (d₀.play events).Owns :=
  (owns_acquire hopen hfree).play hspares

end

end Device

end HandsetAudio
