import HandsetAudio.Proofs.Device.Ownership
import HandsetAudio.Proofs.Device.Paths
import HandsetAudio.Proofs.Pcm.SoftCard

/-!
# What is open, and what is left at the end

That all open substreams are the device's (`Owns`) says how many there are on each lane: one for
each stream out of standby, and those of the voice loop. Main statement:

> `substreams_accounted`: on the software card, after every run, standby flags and call state
> tell what is open (`Accounted`); and once all streams and the device are gone nothing is, and
> as many opens as closes are on the record of each lane.
-/

namespace HandsetAudio

open PcmLedger

/-! ## Counting holdings -/

/-- Where each element holds one substream on a lane or none, those that hold one are counted. -/
theorem on_sum_map {α : Type} {g : α → Holdings} {lane : Lane} {p : α → Bool}
    (h : ∀ a, Holdings.on (g a) lane = if p a then 1 else 0) (l : List α) :
    Holdings.on (l.map g).sum lane = l.countP p := by
  induction l with
  | nil => exact Holdings.on_zero lane
  | cons a l ih =>
    rw [List.map_cons, List.sum_cons, Holdings.on_add, h, ih, List.countP_cons]
    exact Nat.add_comm ..

theorem mem_sum_map {α : Type} {g : α → Holdings} {l : List α} {a : α} (ha : a ∈ l)
    {s : SubstreamId × Lane} (hs : s ∈ g a) : s ∈ (l.map g).sum := by
  induction l with
  | nil => cases ha
  | cons b l ih =>
    rw [List.map_cons, List.sum_cons, Multiset.mem_add]
    rcases List.mem_cons.1 ha with rfl | ha
    · exact .inl hs
    · exact .inr (ih ha)

namespace Device

section

variable {σ μ : Type}

theorem on_ofOutput (s : OutputStream) (lane : Lane) : Holdings.on (ofOutput s) lane =
    if s.substream.isSome && decide (Lane.hifiPlayback = lane) then 1 else 0 := by
  rw [ofOutput, Holdings.on_holding]
  cases s.substream <;> simp

theorem on_ofInput (s : InputStream) (lane : Lane) : Holdings.on (ofInput s) lane =
    if s.running.isSome && decide (Lane.hifiCapture = lane) then 1 else 0 := by
  rw [ofInput, Holdings.on_holding, ← s.map_running]
  cases s.running <;> simp

/-- Streams out of standby are what streams hold. -/
theorem on_streamHoldings (d : Device σ μ) (lane : Lane) : Holdings.on d.streamHoldings lane =
    d.outputs.countP (fun s => s.substream.isSome && decide (Lane.hifiPlayback = lane)) +
      d.inputs.countP (fun s => s.running.isSome && decide (Lane.hifiCapture = lane)) := by
  rw [streamHoldings, Holdings.on_add, on_sum_map fun s => on_ofOutput s lane,
    on_sum_map fun s => on_ofInput s lane]

theorem on_loopHoldings (v : VoiceLoop) (lane : Lane) : Holdings.on v.holdings lane =
    (if Lane.downlink = lane then v.downlink.toList.length else 0) +
      if Lane.uplink = lane then v.uplink.toList.length else 0 := by
  rw [VoiceLoop.holdings, Holdings.on_add, Holdings.on_holding, Holdings.on_holding]

variable [PcmLedger σ] {d : Device σ μ} (h : d.Owns)

include h

/-- What is open on a lane, stream by stream. -/
theorem Owns.openCount_eq (lane : Lane) : PcmLedger.openCount d.card lane =
    (Holdings.on d.loop.holdings lane + Holdings.on d.streamHoldings lane : Nat) := by
  rw [h.openCount, holdings, Holdings.on_add]

/-- What is open for the modem is the voice loop. -/
theorem Owns.openCount_modem :
    PcmLedger.openCount d.card .downlink = d.loop.downlink.toList.length ∧
      PcmLedger.openCount d.card .uplink = d.loop.uplink.toList.length := by
  rw [h.openCount_eq, h.openCount_eq, on_loopHoldings, on_loopHoldings, on_streamHoldings,
    on_streamHoldings]
  simp [Lane.downlink, Lane.uplink, Lane.hifiPlayback, Lane.hifiCapture]

/-- What is open for playback are the substreams of playback streams. -/
theorem Owns.openCount_playback :
    PcmLedger.openCount d.card .hifiPlayback = d.outputs.countP fun s => s.substream.isSome := by
  rw [h.openCount_eq, on_loopHoldings, on_streamHoldings]
  simp [Lane.downlink, Lane.uplink, Lane.hifiPlayback, Lane.hifiCapture]

/-- What is open for capture are the substreams of capture streams. -/
theorem Owns.openCount_capture :
    PcmLedger.openCount d.card .hifiCapture = d.inputs.countP fun s => s.running.isSome := by
  rw [h.openCount_eq, on_loopHoldings, on_streamHoldings]
  simp [Lane.downlink, Lane.uplink, Lane.hifiPlayback, Lane.hifiCapture]

theorem Owns.isOpen_output {s : OutputStream} (hs : s ∈ d.outputs) {id : SubstreamId}
    (hid : s.substream = some id) : IsOpen d.card id .hifiPlayback := by
  have hheld : (id, Lane.hifiPlayback) ∈ ofOutput s := by
    rw [ofOutput, hid]
    exact Multiset.mem_singleton_self _
  have hmem : (id, Lane.hifiPlayback) ∈ d.holdings :=
    Multiset.mem_add.2 (.inr (Multiset.mem_add.2 (.inl (mem_sum_map hs hheld))))
  exact h.isOpen _ hmem

theorem Owns.isOpen_input {s : InputStream} (hs : s ∈ d.inputs) {c : Capture}
    (hc : s.running = some c) : IsOpen d.card c.substream .hifiCapture := by
  have hheld : (c.substream, Lane.hifiCapture) ∈ ofInput s := by
    rw [ofInput, ← s.map_running, hc]
    exact Multiset.mem_singleton_self _
  have hmem : (c.substream, Lane.hifiCapture) ∈ d.holdings :=
    Multiset.mem_add.2 (.inr (Multiset.mem_add.2 (.inr (mem_sum_map hs hheld))))
  exact h.isOpen _ hmem

theorem Owns.isOpen_outputSubstream {i : StreamId} {id : SubstreamId}
    (hid : d.outputSubstream? i = some id) : IsOpen d.card id .hifiPlayback := by
  obtain ⟨s, hs, hsub⟩ := outputSubstream?_eq_some hid
  exact h.isOpen_output (List.mem_of_getElem? hs) hsub

theorem Owns.isOpen_capture {i : StreamId} {c : Capture} (hc : d.capture? i = some c) :
    IsOpen d.card c.substream .hifiCapture := by
  obtain ⟨s, hs, hrunning⟩ := capture?_eq_some hc
  exact h.isOpen_input (List.mem_of_getElem? hs) hrunning

end

/-! ## The end -/

section

variable {σ μ : Type} [PcmDriver σ]

/-- Changing every element, one after the other. -/
theorem foldl_modify {α : Type} (f : α → α) (l : List α) :
    (List.range l.length).foldl (fun l i => l.modify i f) l = l.map f := by
  have hupto : ∀ n i, ((List.range n).foldl (fun l i => l.modify i f) l)[i]? =
      (l[i]?).map fun a => if i < n then f a else a := by
    intro n i
    induction n with
    | zero => simp
    | succ n ih =>
      rw [List.range_succ, List.foldl_concat, List.getElem?_modify, ih]
      rcases Nat.lt_trichotomy i n with hlt | rfl | hgt
      · have hle : i < n + 1 := Nat.lt_succ_of_lt hlt
        cases l[i]? <;> simp [hlt, hle, Nat.ne_of_gt hlt]
      · cases l[i]? <;> simp
      · have hnot : ¬i < n + 1 := Nat.not_lt.2 hgt
        cases l[i]? <;> simp [hnot, Nat.not_lt.2 (Nat.le_of_lt hgt), Nat.ne_of_lt hgt]
  refine List.ext_getElem? fun i => ?_
  rw [hupto, List.getElem?_map]
  cases hi : l[i]? with
  | none => rfl
  | some a => rw [Option.map_some, Option.map_some, if_pos (List.getElem?_eq_some_iff.1 hi).1]

theorem foldl_dropOutput (d : Device σ μ) (ids : List StreamId) :
    (ids.foldl dropOutput d).outputs =
        ids.foldl (fun l i => l.modify i fun _ => { held := false, substream := none }) d.outputs ∧
      (ids.foldl dropOutput d).inputs = d.inputs := by
  induction ids generalizing d with
  | nil => exact ⟨rfl, rfl⟩
  | cons i ids ih => exact ih (d.dropOutput i)

theorem foldl_dropInput (d : Device σ μ) (ids : List StreamId) :
    (ids.foldl dropInput d).outputs = d.outputs ∧
      (ids.foldl dropInput d).inputs =
        ids.foldl (fun l i => l.modify i fun s => { s.put none with held := false })
          d.inputs := by
  induction ids generalizing d with
  | nil => exact ⟨rfl, rfl⟩
  | cons i ids ih => exact ih (d.dropInput i)

/-- Streams that were all dropped hold nothing. -/
theorem streamHoldings_dropStreams (d : Device σ μ) : d.dropStreams.streamHoldings = 0 := by
  obtain ⟨houtputs, hinputs⟩ := d.foldl_dropOutput (List.range d.outputs.length)
  unfold dropStreams streamHoldings
  simp only [(foldl_dropInput _ _).1, (foldl_dropInput _ _).2, houtputs, hinputs, foldl_modify]
  have hnone : ∀ {α : Type} (g : α → Holdings) (l : List α), (∀ a ∈ l, g a = 0) →
      (l.map g).sum = 0 := fun g l hg => List.sum_eq_zero fun s hs => by
    obtain ⟨a, ha, rfl⟩ := List.mem_map.1 hs
    exact hg a ha
  rw [hnone ofOutput, hnone ofInput, add_zero]
  · intro s hs
    obtain ⟨t, -, rfl⟩ := List.mem_map.1 hs
    rfl
  · intro s hs
    obtain ⟨t, -, rfl⟩ := List.mem_map.1 hs
    rfl

theorem holdings_shutdown [ModemLink μ] (d : Device σ μ) :
    d.shutdown.holdings = d.streamHoldings := zero_add d.streamHoldings

variable [PcmLedger σ] [LawfulLedger σ] {d : Device σ μ}

theorem deals_dropStreams (d : Device σ μ) : Deals ClosesStream d d.dropStreams := by
  have hfold : ∀ {f : Device σ μ → StreamId → Device σ μ}, (∀ e i, Deals ClosesStream e (f e i)) →
      ∀ (ids : List StreamId) (e : Device σ μ), Deals ClosesStream e (ids.foldl f e) := by
    intro f hf ids
    induction ids with
    | nil => exact fun e => (SamePcm.refl e).deals
    | cons i ids ih => exact fun e => (hf e i).trans (ih (f e i))
  unfold dropStreams
  exact (hfold (fun e i => (e.deals_dropOutput i).mono fun _ => closesStream_playback) _ d).trans
    (hfold (fun e i => (e.deals_dropInput i).mono fun _ => closesStream_capture) _ _)

theorem deals_shutdown [ModemLink μ] (d : Device σ μ) :
    Deals VoiceLoop.OnModem d d.shutdown := by
  unfold Deals
  rw [holdings_shutdown]
  exact d.loop.deal_drop d.card d.streamHoldings

/-- Once all streams and the device are gone, nothing is open. -/
theorem Owns.openCount_gone [ModemLink μ] (h : d.Owns) (lane : Lane) :
    PcmLedger.openCount d.dropStreams.shutdown.card lane = 0 := by
  have hgone := (deals_shutdown _).owns (d.deals_dropStreams.owns h)
  rw [hgone.openCount, holdings_shutdown, streamHoldings_dropStreams, Holdings.on_zero]
  rfl

end

/-! ## On the software card -/

/-- The event neither opens nor closes substreams behind the device's back, and leaves the record
as it is. -/
def Event.SparesRecord {μ : Type} : Event SoftCard μ → Prop
  | .card change => ∀ c, Keeps c (change c) ∧ (change c).events = c.events
  | _ => True

/-- What a device tells of its streams and calls is what the card has open. -/
structure Accounted {μ : Type} (d : Device SoftCard μ) : Prop where
  /-- A stream is out of standby exactly while it owns a substream. -/
  output : ∀ s ∈ d.outputs, s.standby = false ↔
    ∃ id, s.substream = some id ∧ IsOpen d.card id .hifiPlayback
  input : ∀ s ∈ d.inputs, s.standby = false ↔
    ∃ c, s.running = some c ∧ IsOpen d.card c.substream .hifiCapture
  /-- No substream has two owners. -/
  distinct : (d.holdings.map Prod.fst).Nodup
  playback : d.card.openCount .hifiPlayback = d.outputs.countP fun s => s.held && !s.standby
  capture : d.card.openCount .hifiCapture = d.inputs.countP fun s => s.held && !s.standby
  downlink : d.card.openCount .downlink = if d.status.modemPcmActive then 1 else 0
  uplink : d.card.openCount .uplink = if d.status.modemPcmActive then 1 else 0
  inCall : d.status.modemPcmActive = true → d.status.routing.inCall = true

section

variable {μ : Type} {d : Device SoftCard μ}

/-- Where nobody runs a stream that no client has, the counts agree with the standby flags of the
streams that clients have. -/
theorem Owns.accounted (h : d.Owns) (hattended : ∀ p, (d.line p).Attended)
    (hwhole : d.loop.isActive = true ∨ d.loop = {})
    (hcall : d.routing.inCall = false → d.loop = {}) : d.Accounted := by
  have hheldOutput : ∀ s ∈ d.outputs, s.substream.isSome = (s.held && !s.standby) := by
    intro s hs
    obtain ⟨i, hi⟩ := List.mem_iff_getElem?.1 hs
    have hheld := hattended .output i
    rw [running_output, held_output, outputSubstream?, hi] at hheld
    cases hsub : s.substream with
    | none => simp [OutputStream.standby, hsub]
    | some id => simpa [OutputStream.standby, hsub] using hheld (by simp [hsub])
  have hheldInput : ∀ s ∈ d.inputs, s.running.isSome = (s.held && !s.standby) := by
    intro s hs
    obtain ⟨i, hi⟩ := List.mem_iff_getElem?.1 hs
    have hheld := hattended .input i
    rw [running_input, held_input, capture?, hi] at hheld
    cases hrunning : s.running with
    | none => simp [InputStream.standby_eq, hrunning]
    | some c => simpa [InputStream.standby_eq, hrunning] using hheld (by simp [hrunning])
  have hmodem : (d.card.openCount .downlink : Int) = (if d.loop.isActive then 1 else 0 : Nat) ∧
      (d.card.openCount .uplink : Int) = (if d.loop.isActive then 1 else 0 : Nat) := by
    have hcounts := h.openCount_modem
    rcases hwhole with hactive | hnone
    · obtain ⟨hdown, hup⟩ := Bool.and_eq_true_iff.1 hactive
      obtain ⟨down, hdown⟩ := Option.isSome_iff_exists.1 hdown
      obtain ⟨up, hup⟩ := Option.isSome_iff_exists.1 hup
      rw [hdown, hup] at hcounts
      rw [if_pos hactive]
      exact hcounts
    · rw [hnone] at hcounts ⊢
      exact hcounts
  refine
    { output := fun s hs => ⟨fun hon => ?_, fun howned => ?_⟩
      input := fun s hs => ⟨fun hon => ?_, fun howned => ?_⟩
      distinct := h.distinct
      playback := ?_
      capture := ?_
      downlink := Int.ofNat.inj hmodem.1
      uplink := Int.ofNat.inj hmodem.2
      inCall := fun hactive => ?_ }
  · obtain ⟨id, hid⟩ := Option.isSome_iff_exists.1 (Option.isNone_eq_false_iff.1 hon)
    exact ⟨id, hid, h.isOpen_output hs hid⟩
  · obtain ⟨id, hid, -⟩ := howned
    rw [OutputStream.standby, hid]
    rfl
  · rw [InputStream.standby_eq] at hon
    obtain ⟨c, hc⟩ := Option.isSome_iff_exists.1 (Option.isNone_eq_false_iff.1 hon)
    exact ⟨c, hc, h.isOpen_input hs hc⟩
  · obtain ⟨c, hc, -⟩ := howned
    rw [InputStream.standby_eq, hc]
    rfl
  · rw [Int.ofNat.inj h.openCount_playback]
    exact List.countP_congr fun s hs => by rw [hheldOutput s hs]
  · rw [Int.ofNat.inj h.openCount_capture]
    exact List.countP_congr fun s hs => by rw [hheldInput s hs]
  · -- a loop that is whole is up in a call only
    by_contra hidle
    have hnone := hcall (Bool.not_eq_true _ ▸ hidle)
    have hactive' : d.loop.isActive = true := hactive
    rw [hnone] at hactive'
    cases hactive'

/-- The event neither opens nor closes anything, by the substreams as by the record. -/
theorem Event.SparesRecord.sparesCard {e : Event SoftCard μ} (h : e.SparesRecord) :
    e.SparesCard ∧ @Event.SparesCard SoftCard μ SoftCard.recordLedger e := by
  cases e with
  | operation | modem => exact ⟨trivial, trivial⟩
  | card change =>
    refine ⟨fun c => (h c).1, fun c => ?_⟩
    refine @Keeps.mk SoftCard SoftCard.recordLedger _ _ (h c).1.isOpen fun lane => ?_
    show (change c).recordedOpen lane = c.recordedOpen lane
    rw [SoftCard.recordedOpen, (h c).2]
    rfl

variable [ModemLink μ] {config : Config} {mixer : Mixer} {card : SoftCard} {link : μ}
  {d₀ : Device SoftCard μ}

/-- **Nothing leaks**: on the software card, after every run, whatever failed in it and whichever
streams were closed, used again or dropped, standby flags and call state tell what is open. Once
all streams and then the device are gone, nothing is open, and on the record of each lane are as
many opens as closes. -/
theorem substreams_accounted (hopen : Device.acquire config mixer card link = .ok d₀)
    (hfree : ∀ lane, card.openCount lane = 0)
    (hrecord : ∀ lane, card.events.count ⟨.opened, lane⟩ = card.events.count ⟨.closed, lane⟩)
    {events : List (Event SoftCard μ)} (hspares : ∀ e ∈ events, e.SparesRecord) :
    (d₀.play events).Accounted ∧
      ∀ lane, (d₀.play events).dropStreams.shutdown.card.openCount lane = 0 ∧
        (d₀.play events).dropStreams.shutdown.card.events.count ⟨.opened, lane⟩ =
          (d₀.play events).dropStreams.shutdown.card.events.count ⟨.closed, lane⟩ := by
  have howns : (d₀.play events).Owns :=
    owns_play hopen (fun lane => congrArg Int.ofNat (hfree lane)) fun e he =>
      (hspares e he).sparesCard.1
  refine ⟨howns.accounted (attended_play hopen events) (loopWhole_play hopen events)
    (loop_play hopen events), fun lane => ⟨Int.ofNat.inj (howns.openCount_gone lane), ?_⟩⟩
  -- by the record, too, what is open is the device's
  have hstart : ∀ lane, card.recordedOpen lane = 0 := fun lane => by
    rw [SoftCard.recordedOpen, hrecord, Int.sub_self]
  have hrecorded := @owns_play SoftCard μ SoftCard.recordLedger _ SoftCard.lawful_recordLedger _
    config mixer card link d₀ hopen hstart events fun e he => (hspares e he).sparesCard.2
  have hbalance := @Owns.openCount_gone SoftCard μ _ SoftCard.recordLedger
    SoftCard.lawful_recordLedger _ _ hrecorded lane
  exact Int.ofNat.inj (Int.sub_eq_zero.1 hbalance)

end

/-- After a transfer that failed, a closed stream that was used again and dropped out of standby,
and a call that had no uplink at first, one playback stream runs in a call with a voice loop. -/
theorem substreams_accounted_in_second_call :
    let events : List (Event SoftCard ModemRecorder) := [
      .operation (.openOutput .speaker),
      .card fun card => card.refuseTransfers true,
      .operation (.write 0 [0, 0, 0, 0]),
      .card fun card => card.refuseTransfers false,
      .operation (.closeOutput 0),
      .operation (.openOutput .speaker),
      .operation (.write 1 [0, 0, 0, 0]),
      .operation (.write 0 [0, 0, 0, 0]),
      .operation (.openInput .builtinMic ⟨44100, 1⟩),
      .operation (.read 0 4),
      .card fun card => card.refuseLane .uplink,
      .operation (.setMode 2),
      .card fun card => card.allowLane .uplink,
      .operation (.setMode 0),
      .operation (.setMode 2),
      .operation (.write 1 [0, 0, 0, 0]),
      .operation (.dropOutput 0)]
    let d := inSoftware.play events
    d.Accounted ∧ d.card.openCount .hifiPlayback = 1 ∧ d.card.openCount .hifiCapture = 0 ∧
      d.card.openCount .downlink = 1 ∧ d.card.openCount .uplink = 1 ∧
      ∀ lane, d.dropStreams.shutdown.card.openCount lane = 0 := by
  intro events d
  have hspares : ∀ e ∈ events, e.SparesRecord := by
    intro e he
    simp only [events, List.mem_cons, List.not_mem_nil, or_false] at he
    rcases he with rfl | rfl | rfl | rfl | rfl | rfl | rfl | rfl | rfl | rfl | rfl | rfl | rfl |
      rfl | rfl | rfl | rfl
    all_goals first | exact trivial | exact fun c => ⟨SoftCard.keeps_of_substreams rfl, rfl⟩
  obtain ⟨haccounted, hgone⟩ :=
    substreams_accounted acquire_inSoftware (fun _ => rfl) (fun _ => rfl) hspares
  have hactive : d.status.modemPcmActive = true := by decide +kernel
  have hplaying : d.outputs.countP (fun s => s.held && !s.standby) = 1 := by decide +kernel
  have hrecording : d.inputs.countP (fun s => s.held && !s.standby) = 0 := by decide +kernel
  refine ⟨haccounted, haccounted.playback.trans hplaying, haccounted.capture.trans hrecording, ?_,
    ?_, fun lane => (hgone lane).1⟩
  · rw [haccounted.downlink, if_pos hactive]
  · rw [haccounted.uplink, if_pos hactive]

end Device

end HandsetAudio
