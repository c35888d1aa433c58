import HandsetAudio.Proofs.Device.SplitReads

/-!
# Reads into a buffer

A client has a buffer of its own for a read, and its bytes are replaced on the way: by a transfer
from the ring, by converted samples, by zeros if the microphone is muted. `Device.readInto` is the
read with the buffer. Main statement:

> `readInto_eq`: a read into a buffer does what `readInput` does for the length of the buffer. The
> buffer then holds the bytes of the read if it succeeded, and what it held before if it failed.
-/

namespace HandsetAudio

/-- Replaces bytes of a buffer by samples, from the front, as far as both go. -/
def Sample.putBytes : List Sample → List UInt8 → List UInt8
  | s :: samples, _ :: _ :: rest => bytePair s ++ putBytes samples rest
  | _, buffer => buffer

/-- Of samples that fill the buffer nothing else stays in it. -/
theorem Sample.putBytes_eq {samples : List Sample} {buffer : List UInt8}
    (h : 2 * samples.length = buffer.length) : putBytes samples buffer = toBytes samples := by
  induction samples generalizing buffer with
  | nil =>
    obtain rfl := List.eq_nil_of_length_eq_zero h.symm
    rfl
  | cons s samples ih =>
    match buffer, h with
    | _ :: _ :: rest, h =>
      have hrest : 2 * samples.length = rest.length := by
        simp only [List.length_cons] at h
        omega
      rw [putBytes, ih hrest]
      rfl

/-- What a client has of a read into a buffer: how many bytes were read, and the buffer. -/
def landed {ε δ : Type} (buffer : List UInt8) :
    Except ε (List UInt8) × δ → Except ε Nat × List UInt8 × δ
  | (.ok bytes, d) => (.ok bytes.length, bytes, d)
  | (.error e, d) => (.error e, buffer, d)

namespace SoftCard

/-- Takes captured bytes into a buffer. -/
def readInto (id : SubstreamId) (buffer : List UInt8) (c : SoftCard) :
    Except PcmError Nat × List UInt8 × SoftCard :=
  match c.substreams[id]? with
  | none => (.error unknownSubstream, buffer, c)
  | some s =>
    if s.config.frameBytes = 0 then (.error stopped, buffer, c)
    else
      match c.obstacle? s buffer.length with
      | some e => (.error e, buffer, c)
      | none =>
        let (samples, s') := { s with running := true }.dequeue (buffer.length / 2)
        (.ok buffer.length, Sample.putBytes samples buffer, (c.ensureRunning s).put id s')

theorem readInto_eq (id : SubstreamId) (buffer : List UInt8) (c : SoftCard) :
    c.readInto id buffer = landed buffer (PcmDriver.read id buffer.length c) := by
  simp only [PcmDriver.read]
  unfold readInto read read? transfer?
  cases c.substreams[id]? with
  | none => rfl
  | some s =>
    simp only
    split
    next => rfl
    next =>
      cases hobstacle : c.obstacle? s buffer.length with
      | some e => rfl
      | none =>
        have hfull : 2 * ({ s with running := true }.dequeue (buffer.length / 2)).1.length =
            buffer.length := by
          rw [Substream.length_dequeue, even_of_obstacle? hobstacle]
        simp only [orStopped, Option.getD_some, landed, Sample.putBytes_eq hfull,
          Sample.length_toBytes, hfull]

end SoftCard

namespace Device

/-- Reads and converts whole periods until `wanted` samples are pending; each takes the place of the
one before. -/
def fillInto (id : SubstreamId) (wanted : Nat) :
    (fuel : Nat) → Resampler → List Sample → (period : List UInt8) → SoftCard →
      Except PcmError Unit × Resampler × List Sample × SoftCard
  | 0, r, pending, _, card => (.ok (), r, pending, card)
  | fuel + 1, r, pending, period, card =>
    if wanted ≤ pending.length then (.ok (), r, pending, card)
    else
      match card.readInto id period with
      | (.error e, _, card) => (.error e, r, pending, card)
      | (.ok _, period, card) =>
        let (_, pending, r) := r.process (Sample.ofBytes period) pending
        fillInto id wanted fuel r pending period card

theorem fillInto_eq (id : SubstreamId) (wanted fuel : Nat) (r : Resampler) (pending : List Sample)
    (period : List UInt8) (card : SoftCard) : fillInto id wanted fuel r pending period card =
      fillPending id period.length wanted fuel r pending card := by
  induction fuel generalizing r pending period card with
  | zero => rfl
  | succ fuel ih =>
    unfold fillInto fillPending
    rw [SoftCard.readInto_eq]
    rcases hread : PcmDriver.read id period.length card with ⟨e | bytes, card'⟩
    · rfl
    · simp only [landed, ih, FillsReads.length_read hread]

/-- Takes bytes from a running capture into a buffer. -/
def captureInto (config : PcmConfig) (c : Capture) (buffer : List UInt8) (card : SoftCard) :
    Except PcmError Unit × Capture × List UInt8 × SoftCard :=
  if buffer.length % config.frameBytes ≠ 0 then
    (.error (.misaligned buffer.length config.frameBytes), c, buffer, card)
  else
    match c.resampler with
    | none =>
      let (answer, buffer, card) := card.readInto c.substream buffer
      (answer.map fun _ => (), c, buffer, card)
    | some r =>
      let wanted := buffer.length / 2
      let period := List.replicate (config.periodSize * config.frameBytes) 0
      match fillInto c.substream wanted wanted r c.pending period card with
      | (.error e, r, pending, card) =>
        (.error e, { c with resampler := some r, pending }, buffer, card)
      | (.ok _, r, pending, card) =>
        (.ok (), { c with resampler := some r, pending := pending.drop wanted },
          Sample.putBytes (pending.take wanted) buffer, card)

/-- What is taken from a running capture fills the buffer; if it fails the buffer stays. -/
theorem captureInto_eq {s : InputStream} (hs : s.format.isCapture = true) {c : Capture}
    (hc : c.Suits s.format) (buffer : List UInt8) (card : SoftCard) :
    captureInto s.config c buffer card =
      match readCapture s.config c buffer.length card with
      | (.ok bytes, c', card') => (.ok (), c', bytes, card')
      | (.error e, c', card') => (.error e, c', buffer, card') := by
  by_cases hwhole : buffer.length % s.config.frameBytes = 0
  · cases hresampler : c.resampler with
    | none =>
      unfold captureInto readCapture
      rw [if_neg (not_not_intro hwhole), if_neg (not_not_intro hwhole), hresampler]
      simp only [SoftCard.readInto_eq]
      rcases PcmDriver.read c.substream buffer.length card with ⟨e | bytes, card'⟩ <;> rfl
    | some r =>
      rcases hfill : fillPending c.substream (s.config.periodSize * s.config.frameBytes)
        (buffer.length / 2) (buffer.length / 2) r c.pending card with ⟨e | u, r', pending, card'⟩
      · unfold captureInto readCapture
        rw [if_neg (not_not_intro hwhole), if_neg (not_not_intro hwhole), hresampler]
        simp only [fillInto_eq, List.length_replicate, hfill]
      · have hread := readCapture_converted hwhole hresampler hfill
        have hlength := (readCapture_suits hs hc buffer.length card).2
        rw [hread] at hlength ⊢
        have hfull := hlength _ rfl
        rw [Sample.length_toBytes] at hfull
        unfold captureInto
        rw [if_neg (not_not_intro hwhole), hresampler]
        simp only [fillInto_eq, List.length_replicate, hfill, Sample.putBytes_eq hfull]
  · unfold captureInto readCapture
    rw [if_pos hwhole, if_pos hwhole]

variable {μ : Type}

/-- Reads from a capture stream into a buffer; tells how many bytes were read. -/
def readInto (d : Device SoftCard μ) (i : StreamId) (buffer : List UInt8) :
    Except AudioError Nat × List UInt8 × Device SoftCard μ :=
  match d.heldInput? i with
  | none => (.error (.invalidArgument .noStream), buffer, d)
  | some s =>
    match d.ensureInput i s with
    | (.error e, d) => (.error (.pcm e), buffer, d)
    | (.ok c, d) =>
      match captureInto s.config c buffer d.card with
      | (.error e, c, buffer, card) =>
        (.error (.pcm e), buffer, ({ d with card }.setInput i (some c)).standbyInput i)
      | (.ok _, c, buffer, card) =>
        (.ok buffer.length, if d.routing.micMute then buffer.map fun _ => 0 else buffer,
          { d with card }.setInput i (some c))

/-- **A read into a buffer** does what a read of as many bytes does; only if it succeeds the buffer
changes. -/
theorem readInto_eq {d : Device SoftCard μ} (hfit : d.InputsFit) (i : StreamId)
    (buffer : List UInt8) : d.readInto i buffer = landed buffer (d.readInput i buffer.length) := by
  unfold readInto readInput
  cases hheld : d.heldInput? i with
  | none => rfl
  | some s =>
    have hs := heldInput?_eq_some hheld
    have hcapture := (hfit s (List.mem_of_getElem? hs)).isCapture
    have hsuits := (hfit.ensureInput hs).2
    simp only
    rcases hstarted : d.ensureInput i s with ⟨e | c, d'⟩
    · rfl
    · rw [hstarted] at hsuits
      have hc := hsuits c rfl
      simp only
      rw [captureInto_eq hcapture hc]
      have hlength := (readCapture_suits hcapture hc buffer.length d'.card).2
      rcases htaken : readCapture s.config c buffer.length d'.card with ⟨e | bytes, c', card⟩
      · rfl
      · rw [htaken] at hlength
        have hfull : bytes.length = buffer.length := hlength bytes rfl
        simp only [landed]
        cases d'.routing.micMute <;> simp [hfull, List.map_const']

end Device

end HandsetAudio
