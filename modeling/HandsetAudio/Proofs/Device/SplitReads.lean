import HandsetAudio.Proofs.Device.Formats
import HandsetAudio.Proofs.Device.Mute
import HandsetAudio.Proofs.Pcm.TransferLaw

/-!
# Reads in pieces

A read of a stream at the codec's rate takes its frames from the ring. A read at another rate takes
what is pending, and first reads and converts whole periods until enough is (`Fills`). What is then
left over is where the next read goes on (`Fills.trans`), and a card that serves the reads never
leaves too little (`exists_fills`). In standby a stream still has what was left over, but it starts
with a new substream, a new converter and nothing pending. So two streams in standby cannot be told
apart by reading, on whichever cards they are (`SoftCard.SameAt`). Main statement:

> `reads_in_pieces`: two reads are one read of both lengths, and the first read after standby knows
> of nothing before.
-/

namespace HandsetAudio

namespace SoftCard

/-- Reads of a substream that are whole frames of the format succeed. -/
structure Serves (c : SoftCard) (id : SubstreamId) (config : PcmConfig) : Prop where
  free : c.refusesTransfers = false
  format : c.HasFormat id config
  channels : 0 < config.channels

variable {c c' : SoftCard} {id id' : SubstreamId} {config : PcmConfig}

theorem Serves.read (h : c.Serves id config) {length : Nat}
    (hwhole : length % config.frameBytes = 0) :
    ∃ bytes c', PcmDriver.read id length c = (.ok bytes, c') ∧ c'.Serves id config := by
  obtain ⟨s, hs, rfl⟩ := h.format
  have hread := read_free hs h.channels (obstacle?_eq_none h.free hwhole)
  exact ⟨_, _, read_eq_of_read? hread, h.free, ⟨_, getElem?_transferred hs _, rfl⟩, h.channels⟩

end SoftCard

/-- The frames of a buffer for capture. -/
theorem InputStream.bufferFrames_config (s : InputStream) : s.config.bufferFrames = 4096 :=
  word_of_lt (n := 1024 * 4) (by decide)

/-- A ring for capture is small enough for its memory. -/
theorem Substream.Fits.valid_of_capture {t : Substream} (h : t.Fits) {s : InputStream}
    (hs : s.format.isCapture = true) (hconfig : t.config = s.config) : t.ring.Valid := by
  obtain ⟨hone, htwo⟩ := StreamFormat.channels_of_isCapture hs
  have hchannels : t.ring.channels = s.format.channels := by
    rw [h.channels_eq, hconfig]
    exact Nat.max_eq_left hone
  have hcapacity : t.ring.capacity = 4096 := by
    rw [h.capacity_eq, hconfig, s.bufferFrames_config]
  refine h.valid ?_
  unfold Ring.Addressable Ring.samplesAt Ring.headerBytes sampleBytes
  rw [hchannels, hcapacity]
  split <;> omega

namespace Device

/-! ## Whole periods until there is enough -/

section

variable {σ : Type} [PcmDriver σ]

/-- Periods are read and converted until `wanted` samples are pending: from what converter, samples
and card to which. -/
inductive Fills (id : SubstreamId) (period wanted : Nat) :
    Resampler → List Sample → σ → Resampler → List Sample → σ → Prop where
  | enough {r : Resampler} {pending : List Sample} {card : σ} (h : wanted ≤ pending.length) :
    Fills id period wanted r pending card r pending card
  | more {r r' : Resampler} {pending pending' : List Sample} {card card' card'' : σ}
    {bytes : List UInt8} (h : pending.length < wanted)
    (hread : PcmDriver.read id period card = (.ok bytes, card'))
    (hrest : Fills id period wanted (r.process (Sample.ofBytes bytes) pending).2.2
      (r.process (Sample.ofBytes bytes) pending).2.1 card' r' pending' card'') :
    Fills id period wanted r pending card r' pending' card''

variable {id : SubstreamId} {period wanted wanted' : Nat} {r r' r'' : Resampler}
  {pending pending' pending'' : List Sample} {card card' card'' : σ}

theorem Fills.le_length (h : Fills id period wanted r pending card r' pending' card') :
    wanted ≤ pending'.length := by
  induction h with
  | enough h => exact h
  | more _ _ _ ih => exact ih

/-- Samples that are there already, and asked for in addition, do not matter. -/
theorem Fills.behind (front : List Sample)
    (h : Fills id period wanted r pending card r' pending' card') :
    Fills id period (front.length + wanted) r (front ++ pending) card r' (front ++ pending')
      card' := by
  induction h with
  | enough h =>
    refine .enough ?_
    rw [List.length_append]
    omega
  | @more r r' pending pending' card card' card'' bytes h hread _ ih =>
    have hprocess : r.process (Sample.ofBytes bytes) (front ++ pending) =
        ((r.process (Sample.ofBytes bytes) pending).1,
          front ++ (r.process (Sample.ofBytes bytes) pending).2.1,
          (r.process (Sample.ofBytes bytes) pending).2.2) := by
      simp only [Resampler.process, List.append_assoc]
    refine .more ?_ hread ?_
    · rw [List.length_append]
      omega
    · rw [hprocess]
      exact ih

/-- **Filling in two goes**: what the first one leaves over is what the second one finds. -/
theorem Fills.trans (h : Fills id period wanted r pending card r' pending' card')
    (h' : Fills id period wanted' r' (pending'.drop wanted) card' r'' pending'' card'') :
    Fills id period (wanted + wanted') r pending card r'' (pending'.take wanted ++ pending'')
      card'' := by
  induction h with
  | @enough r pending card h =>
    have hfront := h'.behind (pending.take wanted)
    rw [List.take_append_drop, List.length_take_of_le h] at hfront
    exact hfront
  | more h hread _ ih => exact .more (by omega) hread (ih h')

variable [FillsReads σ]

/-- With a period for each sample that is missing, the device fills up. -/
theorem fillPending_of_fills (h : Fills id period wanted r pending card r' pending' card')
    (hr : r.Steady longestStride) (hyields : longestStride < period / 2 / r.channels)
    (hsmall : period / 2 + longestStride < 2 ^ 51) {fuel : Nat}
    (hfuel : wanted ≤ pending.length + fuel) :
    fillPending id period wanted fuel r pending card = (.ok (), r', pending', card') := by
  induction h generalizing fuel with
  | enough h =>
    unfold fillPending
    split
    next => rfl
    next => rw [if_pos h]
  | @more r r' pending pending' card card' card'' bytes h hread _ ih =>
    obtain ⟨fuel, rfl⟩ : ∃ k, fuel = k + 1 := ⟨fuel - 1, by omega⟩
    obtain ⟨hmore, hr', hchannels⟩ := process_period pending hr hyields hsmall hread
    rw [fillPending, if_neg (by omega), hread]
    rw [← hchannels] at hyields
    exact ih hr' hyields (by omega)

end

/-- On a card that serves the reads there will be enough. -/
theorem exists_fills {id : SubstreamId} {config : PcmConfig} {period : Nat} {r : Resampler}
    {card : SoftCard} (hserves : card.Serves id config) (hwhole : period % config.frameBytes = 0)
    (hr : r.Steady longestStride) (hyields : longestStride < period / 2 / r.channels)
    (hsmall : period / 2 + longestStride < 2 ^ 51) (pending : List Sample) (wanted : Nat) :
    ∃ r' pending' card', Fills id period wanted r pending card r' pending' card' ∧
      card'.Serves id config ∧ r'.Steady longestStride ∧ r'.channels = r.channels := by
  obtain ⟨missing, hmissing⟩ : ∃ missing, wanted ≤ pending.length + missing :=
    ⟨wanted, Nat.le_add_left ..⟩
  induction missing generalizing r pending card with
  | zero => exact ⟨r, pending, card, .enough hmissing, hserves, hr, rfl⟩
  | succ missing ih =>
    by_cases henough : wanted ≤ pending.length
    · exact ⟨r, pending, card, .enough henough, hserves, hr, rfl⟩
    · obtain ⟨bytes, card', hread, hserves'⟩ := hserves.read hwhole
      obtain ⟨hmore, hr', hchannels⟩ := process_period pending hr hyields hsmall hread
      have hmissing' :
          wanted ≤ (r.process (Sample.ofBytes bytes) pending).2.1.length + missing := by
        omega
      rw [← hchannels] at hyields
      obtain ⟨r'', pending'', card'', hfills, hserves'', hr'', hchannels'⟩ :=
        ih hserves' hr' hyields _ hmissing'
      exact ⟨r'', pending'', card'', .more (by omega) hread hfills, hserves'', hr'',
        hchannels'.trans hchannels⟩

/-! ## Taking bytes in pieces -/

section

variable {σ : Type} [PcmDriver σ] {config : PcmConfig} {c : Capture} {length : Nat} {card card' : σ}
  (hwhole : length % config.frameBytes = 0)

include hwhole

theorem readCapture_direct (hc : c.resampler = none) {bytes : List UInt8}
    (hread : PcmDriver.read c.substream length card = (.ok bytes, card')) :
    readCapture config c length card = (.ok bytes, c, card') := by
  unfold readCapture
  rw [if_neg (not_not_intro hwhole), hc]
  simp only [hread]

theorem readCapture_converted {r r' : Resampler} (hc : c.resampler = some r)
    {pending : List Sample} (hfill : fillPending c.substream (config.periodSize * config.frameBytes)
      (length / 2) (length / 2) r c.pending card = (.ok (), r', pending, card')) :
    readCapture config c length card = (.ok (Sample.toBytes (pending.take (length / 2))),
      { c with resampler := some r', pending := pending.drop (length / 2) }, card') := by
  unfold readCapture
  rw [if_neg (not_not_intro hwhole), hc]
  simp only [hfill]

/-- What is pending is read without a transfer. -/
theorem readCapture_pending {r : Resampler} (hc : c.resampler = some r)
    (henough : length / 2 ≤ c.pending.length) :
    readCapture config c length card = (.ok (Sample.toBytes (c.pending.take (length / 2))),
      { c with pending := c.pending.drop (length / 2) }, card) := by
  have hfill : fillPending c.substream (config.periodSize * config.frameBytes) (length / 2)
      (length / 2) r c.pending card = (.ok (), r, c.pending, card) := by
    unfold fillPending
    split
    next => rfl
    next => rw [if_pos henough]
  rw [readCapture_converted hwhole hc hfill, ← hc]

end

section

variable {s : InputStream} (hs : s.format.isCapture = true) {c : Capture} {card : SoftCard}
  (hserves : card.Serves c.substream s.config) {a b : Nat} (ha : a % s.config.frameBytes = 0)
  (hb : b % s.config.frameBytes = 0)

include hs hserves ha hb

/-- At the codec's rate two reads take from the ring what one does. -/
theorem readCapture_add_direct (hc : c.resampler = none) (hfit : card.RingsFit) :
    ∃ x y c' c'' card' card'', readCapture s.config c a card = (.ok x, c', card') ∧
      readCapture s.config c' b card' = (.ok y, c'', card'') ∧
      readCapture s.config c (a + b) card = (.ok (x ++ y), c'', card'') := by
  obtain ⟨t, ht, hconfig⟩ := hserves.format
  obtain ⟨m, rfl⟩ := Nat.dvd_of_mod_eq_zero ha
  obtain ⟨n, rfl⟩ := Nat.dvd_of_mod_eq_zero hb
  have hchannels : 0 < t.config.channels := hconfig ▸ hserves.channels
  have hvalid : t.ring.Valid := (hfit ht).valid_of_capture hs hconfig
  obtain ⟨x, y, card', card'', hx, hy, hxy⟩ :=
    SoftCard.reads_add ht (hfit ht) hvalid hchannels m n hserves.free
  have hx := SoftCard.read_eq_of_read? hx
  have hy := SoftCard.read_eq_of_read? hy
  have hxy := SoftCard.read_eq_of_read? hxy
  rw [hconfig] at hx hy hxy
  rw [← Nat.mul_add, Nat.mul_comm _ m, Nat.mul_comm _ n, Nat.mul_comm _ (m + n)]
  exact ⟨x, y, c, c, card', card'', readCapture_direct (Nat.mul_mod_left ..) hc hx,
    readCapture_direct (Nat.mul_mod_left ..) hc hy, readCapture_direct (Nat.mul_mod_left ..) hc hxy⟩

/-- **Of converted samples two reads take what one does**, and leave the same pending. -/
theorem readCapture_add_converted (hc : c.Suits s.format) {r : Resampler}
    (hresampler : c.resampler = some r) :
    ∃ x y c' c'' card' card'', readCapture s.config c a card = (.ok x, c', card') ∧
      readCapture s.config c' b card' = (.ok y, c'', card'') ∧
      readCapture s.config c (a + b) card = (.ok (x ++ y), c'', card'') := by
  obtain ⟨hchannels, hr⟩ := hc r hresampler
  obtain ⟨hyields, hsmall⟩ := period_samples hs hchannels
  have hperiod : s.config.periodSize * s.config.frameBytes % s.config.frameBytes = 0 :=
    Nat.mul_mod_left ..
  have hboth : (a + b) % s.config.frameBytes = 0 := by rw [Nat.add_mod, ha, hb, Nat.zero_mod]
  have hhalves : (a + b) / 2 = a / 2 + b / 2 := by
    -- frames are whole samples, so no half of a sample is lost between the two
    have hsample : 2 ∣ s.config.frameBytes := Nat.dvd_mul_left ..
    have heven := Nat.dvd_trans hsample (Nat.dvd_of_mod_eq_zero ha)
    omega
  -- the second read goes on from what the first one leaves over
  obtain ⟨r', pending', card', hfills, hserves', hr', hchannels'⟩ :=
    exists_fills hserves hperiod hr hyields hsmall c.pending (a / 2)
  have hyields' := hyields
  rw [← hchannels'] at hyields'
  obtain ⟨r'', pending'', card'', hfills', -⟩ :=
    exists_fills hserves' hperiod hr' hyields' hsmall (pending'.drop (a / 2)) (b / 2)
  have hfirst := fillPending_of_fills hfills hr hyields hsmall (Nat.le_add_left ..)
  have hsecond := fillPending_of_fills hfills' hr' hyields' hsmall (Nat.le_add_left ..)
  have hwhole := fillPending_of_fills (hfills.trans hfills') hr hyields hsmall (Nat.le_add_left ..)
  rw [← hhalves] at hwhole
  have hfront : (pending'.take (a / 2)).length = a / 2 := List.length_take_of_le hfills.le_length
  have hread := readCapture_converted hboth hresampler hwhole
  rw [hhalves, List.take_append, List.drop_append, hfront, List.take_of_length_le (by omega),
    List.drop_of_length_le (by omega), List.nil_append, Nat.add_sub_cancel_left,
    Sample.toBytes_append] at hread
  exact ⟨_, _, _, _, _, _, readCapture_converted ha hresampler hfirst,
    readCapture_converted hb rfl hsecond, hread⟩

end

/-- Reads of a running capture, of a format that the card serves: two of them take what one does. -/
theorem readCapture_add {s : InputStream} (hs : s.format.isCapture = true) {c : Capture}
    (hc : c.Suits s.format) {card : SoftCard} (hserves : card.Serves c.substream s.config)
    (hfit : card.RingsFit) {a b : Nat} (ha : a % s.config.frameBytes = 0)
    (hb : b % s.config.frameBytes = 0) :
    ∃ x y c' c'' card' card'', readCapture s.config c a card = (.ok x, c', card') ∧
      readCapture s.config c' b card' = (.ok y, c'', card'') ∧
      readCapture s.config c (a + b) card = (.ok (x ++ y), c'', card'') := by
  cases hresampler : c.resampler with
  | none => exact readCapture_add_direct hs hserves ha hb hresampler hfit
  | some r => exact readCapture_add_converted hs hserves ha hb hc hresampler

section

variable {σ μ : Type} [PcmDriver σ] {d : Device σ μ} {i : StreamId} {s : InputStream}

omit [PcmDriver σ] in
theorem setInput_setInput (d : Device σ μ) (i : StreamId) (c : Option Capture) (c' : Capture)
    (card : σ) :
    { d.setInput i c with card }.setInput i (some c') = { d with card }.setInput i (some c') := by
  have hput :
      (InputStream.put · (some c')) ∘ (InputStream.put · c) = (InputStream.put · (some c')) :=
    funext fun s => s.put_put_some c c'
  simp only [setInput, List.modify_modify_eq, hput]

section

variable {e : Device σ μ} {c c' : Capture} {length : Nat} {card : σ}
  (hheld : d.heldInput? i = some s) (hstarted : d.ensureInput i s = (.ok c, e))

include hheld hstarted

/-- A read of a stream that could be started gives what was taken, or ends in standby. -/
theorem readInput_taken {bytes : List UInt8}
    (htaken : readCapture s.config c length e.card = (.ok bytes, c', card)) :
    d.readInput i length =
      (.ok (audible e.routing.micMute length bytes), { e with card }.setInput i (some c')) := by
  unfold readInput
  rw [hheld]
  simp only [hstarted, htaken]
  rfl

theorem readInput_failed {reason : PcmError}
    (hfailed : readCapture s.config c length e.card = (.error reason, c', card)) :
    d.readInput i length =
      (.error (.pcm reason), ({ e with card }.setInput i (some c')).standbyInput i) := by
  unfold readInput
  rw [hheld]
  simp only [hstarted, hfailed]

end

omit [PcmDriver σ] in
theorem capture?_of_held (hheld : d.heldInput? i = some s) : d.capture? i = s.running := by
  rw [capture?, heldInput?_eq_some hheld]
  rfl

/-- A stream out of standby need not start. -/
theorem ensureInput_running (hheld : d.heldInput? i = some s) {c : Capture}
    (hrunning : s.running = some c) : d.ensureInput i s = (.ok c, d) := by
  unfold ensureInput
  rw [capture?_of_held hheld, hrunning]

/-- A running stream that converts and has enough pending is read without a transfer. -/
theorem readInput_pending (hheld : d.heldInput? i = some s) (hon : s.standby = false)
    (hconverts : s.resampler.isSome = true) {length : Nat}
    (hwhole : length % s.config.frameBytes = 0) (henough : length / 2 ≤ s.pending.length) :
    (d.readInput i length).1 = .ok (audible d.routing.micMute length
      (Sample.toBytes (s.pending.take (length / 2)))) := by
  obtain ⟨id, hid⟩ := Option.isSome_iff_exists.1 (Option.isNone_eq_false_iff.1 hon)
  obtain ⟨r, hr⟩ := Option.isSome_iff_exists.1 hconverts
  have hrunning : s.running = some ⟨id, s.resampler, s.pending⟩ := by
    rw [InputStream.running, hid, Option.map_some]
  have htaken : readCapture s.config ⟨id, s.resampler, s.pending⟩ length d.card = _ :=
    readCapture_pending hwhole hr henough
  rw [readInput_taken hheld (ensureInput_running hheld hrunning) htaken]

omit [PcmDriver σ] in
/-- A stream is held as before, whatever runs of it. -/
theorem heldInput?_setInput (hheld : d.heldInput? i = some s) (c : Option Capture) (card : σ) :
    ({ d with card }.setInput i c).heldInput? i = some (s.put c) := by
  obtain ⟨hs, hclient⟩ := Option.filter_eq_some_iff.1 hheld
  refine Option.filter_eq_some_iff.2 ⟨?_, by rwa [s.held_put]⟩
  simp [setInput, hs]

end

/-- What is heard of two reads. -/
theorem audible_append (muted : Bool) (a b : Nat) (x y : List UInt8) :
    audible muted a x ++ audible muted b y = audible muted (a + b) (x ++ y) := by
  cases muted with
  | true => exact List.replicate_append_replicate
  | false => rfl

/-- **Two reads of a running stream are one.** -/
theorem readInput_add {μ : Type} {d : Device SoftCard μ} (htuned : d.Tuned) (hfit : d.InputsFit)
    {i : StreamId} {s : InputStream} (hheld : d.heldInput? i = some s) {c : Capture}
    (hrunning : s.running = some c) (hfree : d.card.refusesTransfers = false) {a b : Nat}
    (ha : a % s.config.frameBytes = 0) (hb : b % s.config.frameBytes = 0) :
    ∃ x y d' d'', d.readInput i a = (.ok x, d') ∧ d'.readInput i b = (.ok y, d'') ∧
      d.readInput i (a + b) = (.ok (x ++ y), d'') := by
  have hs := List.mem_of_getElem? (heldInput?_eq_some hheld)
  have hserves : d.card.Serves c.substream s.config :=
    ⟨hfree, htuned.capture hs hrunning,
      (StreamFormat.channels_of_isCapture (hfit s hs).isCapture).1⟩
  obtain ⟨x, y, c', c'', card', card'', hfirst, hsecond, hboth⟩ :=
    readCapture_add (hfit s hs).isCapture ((hfit s hs).suits c hrunning) hserves htuned.rings ha hb
  have hheld' := heldInput?_setInput hheld (some c') card'
  have hread := readInput_taken hheld (ensureInput_running hheld hrunning) hfirst
  have hread' := readInput_taken hheld' (ensureInput_running hheld' rfl) hsecond
  have hread'' := readInput_taken hheld (ensureInput_running hheld hrunning) hboth
  rw [setInput_setInput] at hread'
  rw [← audible_append] at hread''
  exact ⟨_, _, _, _, hread, hread', hread''⟩

end Device

/-! ## The first read after standby -/

namespace SoftCard

/-- Two substreams, on the same card or on two, that no read can tell apart. -/
structure SameAt (c : SoftCard) (id : SubstreamId) (c' : SoftCard) (id' : SubstreamId) : Prop where
  substream : c'.substreams[id']? = c.substreams[id]?
  transfers : c'.refusesTransfers = c.refusesTransfers

variable {c c' : SoftCard} {id id' : SubstreamId}

theorem SameAt.put (h : c.SameAt id c' id') {s : Substream} (hs : c.substreams[id]? = some s)
    (ring : Ring) : (c.transferred id s ring).SameAt id (c'.transferred id' s ring) id' where
  substream := (getElem?_transferred (h.substream.trans hs) ring).trans
    (getElem?_transferred hs ring).symm
  transfers := h.transfers

theorem SameAt.read (h : c.SameAt id c' id') (length : Nat) :
    ∃ answer card card', PcmDriver.read id length c = (answer, card) ∧
      PcmDriver.read id' length c' = (answer, card') ∧ card.SameAt id card' id' := by
  simp only [PcmDriver.read, SoftCard.read, read?, transfer?]
  rw [h.substream]
  cases hs : c.substreams[id]? with
  | none => exact ⟨_, _, _, rfl, rfl, h⟩
  | some s =>
    have hobstacle : c'.obstacle? s length = c.obstacle? s length := by
      unfold obstacle?
      rw [h.transfers]
    simp only [hobstacle]
    split
    next => exact ⟨_, _, _, rfl, rfl, h⟩
    next =>
      split
      next => exact ⟨_, _, _, rfl, rfl, h⟩
      next =>
        refine ⟨_, _, _, rfl, rfl, ?_⟩
        have hput := h.put hs (s.dequeue (length / 2)).2.ring
        rwa [← ensureRunning_put, ← ensureRunning_put] at hput

theorem SameAt.fillPending (h : c.SameAt id c' id') (period wanted fuel : Nat) (r : Resampler)
    (pending : List Sample) :
    ∃ answer r' pending' card card',
      Device.fillPending id period wanted fuel r pending c = (answer, r', pending', card) ∧
      Device.fillPending id' period wanted fuel r pending c' = (answer, r', pending', card') ∧
      card.SameAt id card' id' := by
  induction fuel generalizing r pending c c' with
  | zero => exact ⟨_, _, _, _, _, rfl, rfl, h⟩
  | succ fuel ih =>
    obtain ⟨answer, card, card', hread, hread', hsame⟩ := h.read period
    unfold Device.fillPending
    split
    next => exact ⟨_, _, _, _, _, rfl, rfl, h⟩
    next =>
      rw [hread, hread']
      cases answer with
      | error e => exact ⟨_, _, _, _, _, rfl, rfl, hsame⟩
      | ok bytes => exact ih hsame _ _

/-- Taking bytes does not tell them apart either. -/
theorem SameAt.readCapture {k : Capture} (h : c.SameAt k.substream c' id') (config : PcmConfig)
    (length : Nat) :
    ∃ answer k' card card', Device.readCapture config k length c = (answer, k', card) ∧
      Device.readCapture config { k with substream := id' } length c' =
        (answer, { k' with substream := id' }, card') ∧
      card.SameAt k.substream card' id' := by
  obtain ⟨id, resampler, pending⟩ := k
  unfold Device.readCapture
  split
  next => exact ⟨_, _, _, _, rfl, rfl, h⟩
  next =>
    cases resampler with
    | none =>
      obtain ⟨answer, card, card', hread, hread', hsame⟩ := h.read length
      simp only [hread, hread']
      exact ⟨_, _, _, _, rfl, rfl, hsame⟩
    | some r =>
      obtain ⟨answer, r', pending', card, card', hfill, hfill', hsame⟩ :=
        h.fillPending (config.periodSize * config.frameBytes) (length / 2) (length / 2) r pending
      simp only [hfill, hfill']
      cases answer with
      | error e => exact ⟨_, _, _, _, rfl, rfl, hsame⟩
      | ok _ => exact ⟨_, _, _, _, rfl, rfl, hsame⟩

end SoftCard

namespace Device

section

variable {μ : Type} {d : Device SoftCard μ} {i : StreamId} {s : InputStream}

/-- What a capture stream has for later reads: its converter and the samples that are pending, also
in standby, and its substream. -/
def leftover (d : Device SoftCard μ) (i : StreamId) :
    Option (Option Resampler × List Sample × Option Substream) :=
  (d.inputs[i]?).map fun s =>
    (s.resampler, s.pending, s.substream.bind (d.card.substreams[·]?))

/-- A new substream of the card, opened for capture. -/
def opening (s : InputStream) : Substream where
  lane := .hifiCapture
  config := s.config
  ring := .empty s.config.bufferFrames s.config.channels false

/-- The ring of a capture stream does not take much memory. -/
theorem grants_capture {c : SoftCard} (hs : s.format.isCapture = true)
    (hlane : .hifiCapture ∉ c.refusedLanes) : c.Grants .hifiCapture .none s.config := by
  obtain ⟨hone, htwo⟩ := StreamFormat.channels_of_isCapture hs
  refine SoftCard.grants_unmapped hlane ?_
  have hchannels : max s.config.channels 1 = s.format.channels := Nat.max_eq_left hone
  rw [s.bufferFrames_config, hchannels, Ring.bytesFor, if_neg Bool.false_ne_true,
    word_of_lt (by omega)]
  show 2 * (4096 * s.format.channels) < 2 ^ 63
  omega

/-- A stream in standby starts with a new substream, a new converter and nothing pending, whatever
it kept. -/
theorem ensureInput_standby (hs : s.format.isCapture = true) (hcapture : d.capture? i = none)
    (hlane : .hifiCapture ∉ d.card.refusedLanes) :
    let c : Capture :=
      { substream := d.card.substreams.length, resampler := resamplerFor s.format, pending := [] }
    ∃ card : SoftCard,
      d.ensureInput i s = (.ok c, { d.converge .input true with card }.setInput i (some c)) ∧
      card.substreams[c.substream]? = some (opening s) ∧
      card.refusesTransfers = d.card.refusesTransfers := by
  have hgrants : (d.converge .input true).card.Grants .hifiCapture .none s.config :=
    grants_capture hs hlane
  intro c
  unfold ensureInput
  rw [hcapture]
  unfold startInput
  simp only [SoftCard.acquire_granted _ hgrants]
  exact ⟨_, rfl, List.getElem?_concat_length, rfl⟩

/-- In standby a stream has all it had but its substream. -/
theorem leftover_standbyInput (d : Device SoftCard μ) (i : StreamId) :
    (d.standbyInput i).leftover i =
      (d.leftover i).map fun (resampler, pending, _) => (resampler, pending, none) := by
  unfold standbyInput
  split
  next hidle =>
    cases hs : d.inputs[i]? with
    | none => simp [leftover, hs]
    | some s =>
      have hsubstream : s.substream = none :=
        InputStream.running_eq_none.1 (by simpa [capture?, hs] using hidle)
      simp [leftover, hs, hsubstream]
  next c hrunning =>
    obtain ⟨s, hs, -⟩ := capture?_eq_some hrunning
    simp [leftover, setInput, hs, InputStream.put]

theorem leftover_setInput (hs : d.inputs[i]? = some s) (c : Capture) (card : SoftCard) :
    ({ d with card }.setInput i (some c)).leftover i =
      some (c.resampler, c.pending, card.substreams[c.substream]?) := by
  simp [leftover, setInput, hs, InputStream.put]

end

/-- **A stream starts afresh**: of two streams in standby, on whichever devices and whatever they
kept, the first read gives the same, and leaves the same over. -/
theorem readInput_standby {μ μ' : Type} {d : Device SoftCard μ} {d' : Device SoftCard μ'}
    {i j : StreamId} {s t : InputStream} (hs : d.heldInput? i = some s)
    (ht : d'.heldInput? j = some t) (hcapture : s.format.isCapture = true)
    (hidle : s.running = none) (hidle' : t.running = none) (hformat : t.format = s.format)
    (hlane : .hifiCapture ∉ d.card.refusedLanes) (hlane' : .hifiCapture ∉ d'.card.refusedLanes)
    (htransfers : d'.card.refusesTransfers = d.card.refusesTransfers)
    (hmute : d'.routing.micMute = d.routing.micMute) (length : Nat) :
    (d'.readInput j length).1 = (d.readInput i length).1 ∧
      (d'.readInput j length).2.leftover j = (d.readInput i length).2.leftover i := by
  have hconfig : t.config = s.config := by
    unfold InputStream.config
    rw [hformat]
  have hopening : opening t = opening s := by
    unfold opening
    rw [hconfig]
  obtain ⟨card, hstarted, hnew, hsame⟩ :=
    ensureInput_standby hcapture ((capture?_of_held hs).trans hidle) hlane
  obtain ⟨card', hstarted', hnew', hsame'⟩ :=
    ensureInput_standby (hformat ▸ hcapture) ((capture?_of_held ht).trans hidle') hlane'
  rw [hformat] at hstarted'
  -- both captures are the same but for the number of their substream
  set c : Capture :=
    { substream := d.card.substreams.length, resampler := resamplerFor s.format, pending := [] }
  set id' := d'.card.substreams.length
  have hat : card.SameAt c.substream card' id' :=
    ⟨by rw [hnew, hnew', hopening], by rw [hsame, hsame', htransfers]⟩
  obtain ⟨answer, k, last, last', htaken, htaken', hleft⟩ := hat.readCapture s.config length
  have hinputs := getElem?_ensureInput (heldInput?_eq_some hs) hstarted
  have hinputs' := getElem?_ensureInput (heldInput?_eq_some ht) hstarted'
  have hlast : last'.substreams[id']? = last.substreams[k.substream]? := by
    rw [substream_readCapture htaken]
    exact hleft.substream
  cases answer with
  | error e =>
    rw [readInput_failed hs hstarted htaken, readInput_failed ht hstarted' (hconfig.symm ▸ htaken')]
    refine ⟨rfl, ?_⟩
    rw [leftover_standbyInput, leftover_standbyInput, leftover_setInput hinputs,
      leftover_setInput hinputs']
    rfl
  | ok bytes =>
    rw [readInput_taken hs hstarted htaken, readInput_taken ht hstarted' (hconfig.symm ▸ htaken')]
    refine ⟨congrArg (fun muted => Except.ok (audible muted length bytes)) hmute, ?_⟩
    rw [leftover_setInput hinputs, leftover_setInput hinputs']
    exact congrArg (fun left => some (k.resampler, k.pending, left)) hlast

/-- **Captured audio does not depend on how it is read.** On the software card, whatever happened
before: if transfers are not refused, two reads of whole frames from a stream out of standby give
what one read of both gives, and leave the device the same; and what a stream in standby gives
first, and then has left over, is what any such stream of its format does. -/
theorem reads_in_pieces {μ : Type} [ModemLink μ] {config : Config} {mixer : Mixer}
    {uses : List SoftCard.Use} {link : μ} {d₀ : Device SoftCard μ}
    (hopen : Device.acquire config mixer (SoftCard.used uses) link = .ok d₀)
    (hfree : ∀ lane, (SoftCard.used uses).openCount lane = 0) {events : List (Event SoftCard μ)}
    (hby : ∀ e ∈ events, e.ByHand) {i : StreamId} {s : InputStream}
    (hheld : (d₀.play events).heldInput? i = some s)
    (htransfers : (d₀.play events).card.refusesTransfers = false) :
    let d := d₀.play events
    (s.standby = false → ∀ a b, a % s.config.frameBytes = 0 → b % s.config.frameBytes = 0 →
      ∃ x y d' d'', d.readInput i a = (.ok x, d') ∧ d'.readInput i b = (.ok y, d'') ∧
        d.readInput i (a + b) = (.ok (x ++ y), d'')) ∧
    (s.standby = true → .hifiCapture ∉ d.card.refusedLanes →
      ∀ (e : Device SoftCard μ) (j : StreamId) (t : InputStream), e.heldInput? j = some t →
        t.standby = true → t.format = s.format → .hifiCapture ∉ e.card.refusedLanes →
        e.card.refusesTransfers = false → e.routing.micMute = d.routing.micMute →
        ∀ length, (e.readInput j length).1 = (d.readInput i length).1 ∧
          (e.readInput j length).2.leftover j = (d.readInput i length).2.leftover i) := by
  intro d
  have htuned := (tuned_acquire hopen hfree).play hby
  have hfit := (inputsFit_acquire hopen).play events
  refine ⟨fun hon a b ha hb => ?_,
    fun hidle hlane e j t ht hidle' hformat hlane' hfree' hmute => ?_⟩
  · rw [s.standby_eq] at hon
    obtain ⟨c, hrunning⟩ := Option.isSome_iff_exists.1 (Option.isNone_eq_false_iff.1 hon)
    exact readInput_add htuned hfit hheld hrunning htransfers ha hb
  · rw [InputStream.standby_eq] at hidle hidle'
    have hs := (hfit s (List.mem_of_getElem? (heldInput?_eq_some hheld))).isCapture
    exact readInput_standby hheld ht hs (Option.isNone_iff_eq_none.1 hidle)
      (Option.isNone_iff_eq_none.1 hidle') hformat hlane hlane' (hfree'.trans htransfers.symm) hmute

/-- A stream at half of the codec's rate with four frames in its ring, read in two pieces and in
one. After the first piece and standby it keeps the samples of the other frames, but then it reads
silence like a stream that was never fed. -/
theorem reads_in_pieces_at_half_rate :
    let opened : List (Event SoftCard ModemRecorder) := [
      .operation (.openInput .builtinMic ⟨22050, 1⟩)]
    let fed := opened ++ [
      .operation (.read 0 0),
      .card fun c => c.handle (.push 0 [100, 200, 300, 400])]
    let stopped := fed ++ [.operation (.read 0 2), .operation (.standbyInput 0)]
    let d := inSoftware.play fed
    let d' := inSoftware.play stopped
    let fresh := inSoftware.play opened
    (∃ e e', d.readInput 0 2 = (.ok [100, 0], e) ∧ e.readInput 0 4 = (.ok [200, 0, 144, 1], e') ∧
        d.readInput 0 6 = (.ok [100, 0, 200, 0, 144, 1], e')) ∧
      (d'.heldInput? 0).map (fun s => (s.standby, s.pending.take 2)) = some (true, [200, 400]) ∧
      (d'.readInput 0 2).1.toOption = some [0, 0] ∧
      ∀ length, (fresh.readInput 0 length).1 = (d'.readInput 0 length).1 ∧
        (fresh.readInput 0 length).2.leftover 0 = (d'.readInput 0 length).2.leftover 0 := by
  intro opened fed stopped d d' fresh
  have hopen : Device.acquire {} .ofTables (SoftCard.used []) {} = .ok inSoftware :=
    acquire_inSoftware
  have hby : ∀ e ∈ stopped, e.ByHand := by
    intro e he
    simp only [stopped, fed, opened, List.cons_append, List.nil_append, List.mem_cons,
      List.not_mem_nil, or_false] at he
    rcases he with rfl | rfl | rfl | rfl | rfl
    · trivial
    · trivial
    · exact ⟨_, rfl⟩
    · trivial
    · trivial
  -- out of standby: the first piece is converted, and the second one is pending then
  have hheld : d.heldInput? 0 =
      some ⟨true, ⟨22050, 1⟩, some 0, some (.new 44100 22050 1), []⟩ := by decide +kernel
  obtain ⟨x, y, e, e', hx, hy, hxy⟩ := (reads_in_pieces hopen (fun _ => rfl)
    (fun e he => hby e (List.mem_append_left _ he)) hheld (by decide +kernel)).1 rfl 2 4
    (by decide) (by decide)
  have hfirst : (d.readInput 0 2).1.toOption = some [100, 0] := by decide +kernel
  have hleft : ((d.readInput 0 2).2.heldInput? 0).map
      (fun s => (s.standby, s.format, s.resampler.isSome, s.pending.take 2)) =
      some (false, ⟨22050, 1⟩, true, [200, 400]) := by decide +kernel
  have hmute : (d.readInput 0 2).2.routing.micMute = false := by decide +kernel
  change d.readInput 0 2 = (.ok x, e) at hx
  rw [hx] at hfirst hleft hmute
  obtain rfl : x = [100, 0] := Option.some.inj hfirst
  obtain ⟨s, hs, hleft⟩ := Option.map_eq_some_iff.1 hleft
  simp only [Prod.mk.injEq] at hleft
  obtain ⟨hon, hformat, hconverts, hpending⟩ := hleft
  have henough : 2 ≤ s.pending.length := by
    have htake : min 2 s.pending.length = 2 :=
      List.length_take.symm.trans (congrArg List.length hpending)
    omega
  have hwhole : 4 % s.config.frameBytes = 0 := by
    rw [InputStream.config, hformat]
    rfl
  have hsecond := readInput_pending hs hon hconverts hwhole henough
  rw [hy, hmute, hpending] at hsecond
  obtain rfl : y = [200, 0, 144, 1] := Except.ok.inj hsecond
  -- in standby, with samples pending
  have hkept : (d'.heldInput? 0).map (fun s => (s.standby, s.format, s.pending.take 2)) =
      some (true, ⟨22050, 1⟩, [200, 400]) := by decide +kernel
  obtain ⟨t, ht, hkept⟩ := Option.map_eq_some_iff.1 hkept
  simp only [Prod.mk.injEq] at hkept
  obtain ⟨hidle, hformat', hpending'⟩ := hkept
  have hafresh := (reads_in_pieces hopen (fun _ => rfl) hby ht (by decide +kernel)).2 hidle
    (by decide +kernel) fresh 0 { format := ⟨22050, 1⟩ } (by decide +kernel) rfl hformat'.symm
    (by decide +kernel) (by decide +kernel) (by decide +kernel)
  refine ⟨⟨e, e', hx, hy, hxy⟩, ?_, ?_, hafresh⟩
  · rw [ht, Option.map_some, hidle, hpending']
  · have hsilent : (fresh.readInput 0 2).1.toOption = some [0, 0] := by decide +kernel
    rw [← (hafresh 2).1, hsilent]

end Device

end HandsetAudio
