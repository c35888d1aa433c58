import HandsetAudio.Proofs.Device.Ownership
import HandsetAudio.Proofs.Pcm.Reads
import HandsetAudio.Proofs.Resampler

/-!
# Reads of capture streams

A stream that does not capture at the codec's rate reads whole periods and converts them. Its
resampler was made for its format (`Capture.Suits`), and so every period yields a frame: a read
that no transfer fails for ends with all samples that it needs. Main statement:

> `length_readInput`: in every run, a read that succeeds gives as many bytes as asked for.
-/

namespace HandsetAudio

namespace StreamFormat

variable {f : StreamFormat}

/-- Capture knows one or two channels. -/
theorem channels_of_isCapture (h : f.isCapture = true) : 1 ≤ f.channels ∧ f.channels ≤ 2 := by
  by_contra hchannels
  simp [isCapture, checkCapture, hchannels] at h

/-- Capture knows its own rates only. -/
theorem rate_of_isCapture (h : f.isCapture = true) : f.rate ∈ captureRates := by
  by_contra hrate
  simp [isCapture, checkCapture, channels_of_isCapture h, hrate] at h

end StreamFormat

/-- The frames by which a read position moves at most when captured audio is converted. -/
def longestStride : Nat := 6

/-- What runs of a capture stream converts to the format of the stream, if it converts. -/
def Capture.Suits (c : Capture) (f : StreamFormat) : Prop :=
  ∀ r ∈ c.resampler, r.channels = f.channels ∧ r.Steady longestStride

/-- The stream has a format that capture can deliver, and what runs of it suits the format. -/
structure InputStream.Fit (s : InputStream) : Prop where
  isCapture : s.format.isCapture = true
  suits : ∀ c ∈ s.running, c.Suits s.format

namespace Device

/-- No rate is so low that more frames than that would be passed. -/
theorem suits_resamplerFor {f : StreamFormat} (h : f.isCapture = true) (id : SubstreamId) :
    Capture.Suits { substream := id, resampler := resamplerFor f, pending := [] } f := by
  intro r hr
  unfold resamplerFor at hr
  simp only at hr
  split at hr
  next => cases hr
  next =>
    obtain rfl := Option.some.inj hr
    have hchannels := StreamFormat.channels_of_isCapture h
    have hrates : ∀ rate ∈ StreamFormat.captureRates,
        0 < rate ∧ PcmConfig.hifiUplink.rate ≤ longestStride * rate := by decide
    obtain ⟨hpos, hratio⟩ := hrates f.rate (StreamFormat.rate_of_isCapture h)
    refine ⟨?_, Resampler.steady_new _ hpos hratio (by decide)⟩
    show max f.channels 1 = f.channels
    omega

section

variable {σ : Type} [PcmDriver σ] [FillsReads σ]

/-- A period that is read and converted adds a sample at least. -/
theorem process_period {id : SubstreamId} {period : Nat} {r : Resampler} {card card' : σ}
    {bytes : List UInt8} (pending : List Sample) (hr : r.Steady longestStride)
    (hyields : longestStride < period / 2 / r.channels)
    (hsmall : period / 2 + longestStride < 2 ^ 51)
    (hread : PcmDriver.read id period card = (.ok bytes, card')) :
    pending.length < (r.process (Sample.ofBytes bytes) pending).2.1.length ∧
      (r.process (Sample.ofBytes bytes) pending).2.2.Steady longestStride ∧
      (r.process (Sample.ofBytes bytes) pending).2.2.channels = r.channels := by
  have hbytes : (Sample.ofBytes bytes).length = period / 2 := by
    rw [Sample.length_ofBytes, FillsReads.length_read hread]
  have hmore := Resampler.process_pos pending hr (hbytes.symm ▸ hyields)
  have hframe := Nat.mul_le_mul hmore hr.channels_pos
  refine ⟨?_, hr.process pending (hbytes.symm ▸ hsmall),
    Resampler.channels_process r (Sample.ofBytes bytes) pending⟩
  rw [Resampler.length_process pending hr.carried]
  omega

/-- The converter stays as good as it was, and whole periods are read until there are enough
samples or a read fails. -/
theorem fillPending_suits (id : SubstreamId) (card : σ) {period wanted fuel : Nat} {r : Resampler}
    {pending : List Sample} (hr : r.Steady longestStride)
    (hyields : longestStride < period / 2 / r.channels)
    (hsmall : period / 2 + longestStride < 2 ^ 51) (hfuel : wanted ≤ pending.length + fuel) :
    let filled := fillPending id period wanted fuel r pending card
    filled.2.1.Steady longestStride ∧ filled.2.1.channels = r.channels ∧
      (filled.1 = .ok () → wanted ≤ filled.2.2.1.length) := by
  induction fuel generalizing r pending card with
  | zero => exact ⟨hr, rfl, fun _ => hfuel⟩
  | succ fuel ih =>
    unfold fillPending
    by_cases henough : wanted ≤ pending.length
    · rw [if_pos henough]
      exact ⟨hr, rfl, fun _ => henough⟩
    · rw [if_neg henough]
      rcases hread : PcmDriver.read id period card with ⟨e | bytes, card'⟩
      · exact ⟨hr, rfl, fun h => by cases h⟩
      · obtain ⟨hmore, hr', hchannels⟩ := process_period pending hr hyields hsmall hread
        -- at least one sample came in, for one period less to go
        have hfuel' : wanted ≤ (r.process (Sample.ofBytes bytes) pending).2.1.length + fuel := by
          omega
        rw [← hchannels] at hyields ⊢
        exact ih card' hr' hyields hfuel'

/-- The samples of a period: enough for a frame to come of them, and few enough to be counted. -/
theorem period_samples {s : InputStream} (hs : s.format.isCapture = true) {r : Resampler}
    (hr : r.channels = s.format.channels) :
    longestStride < s.config.periodSize * s.config.frameBytes / 2 / r.channels ∧
      s.config.periodSize * s.config.frameBytes / 2 + longestStride < 2 ^ 51 := by
  obtain ⟨hone, htwo⟩ := StreamFormat.channels_of_isCapture hs
  -- a period has 1024 frames, whatever the channels
  have hperiod : s.config.periodSize * s.config.frameBytes / 2 = 1024 * r.channels := by
    rw [hr]
    show 1024 * (s.format.channels * 2) / 2 = _
    omega
  rw [hperiod, Nat.mul_div_cancel _ (by omega)]
  unfold longestStride
  omega

/-- A read of a running capture leaves one that suits the format, and gives all bytes if it
succeeds. -/
theorem readCapture_suits {s : InputStream} (hs : s.format.isCapture = true) {c : Capture}
    (hc : c.Suits s.format) (length : Nat) (card : σ) :
    (readCapture s.config c length card).2.1.Suits s.format ∧
      ∀ bytes, (readCapture s.config c length card).1 = .ok bytes → bytes.length = length := by
  have hframe : s.config.frameBytes = s.format.channels * 2 := rfl
  unfold readCapture
  split
  next => exact ⟨hc, fun _ h => nomatch h⟩
  next hwhole =>
    have heven : 2 * (length / 2) = length := by
      rw [not_not, hframe] at hwhole
      have hdvd : 2 ∣ length :=
        Nat.dvd_trans (Nat.dvd_mul_left ..) (Nat.dvd_of_mod_eq_zero hwhole)
      exact Nat.mul_div_cancel' hdvd
    split
    next =>
      refine ⟨hc, fun bytes hbytes => ?_⟩
      rcases hread : PcmDriver.read c.substream length card with ⟨answer, card'⟩
      rw [hread] at hbytes
      obtain rfl : answer = .ok bytes := hbytes
      exact FillsReads.length_read hread
    next r hresampler =>
      obtain ⟨hchannels, hr⟩ := hc r hresampler
      obtain ⟨hyields, hsmall⟩ := period_samples hs hchannels
      have hfill := fillPending_suits c.substream card hr hyields hsmall
        (Nat.le_add_left (length / 2) c.pending.length)
      simp only
      generalize fillPending c.substream (s.config.periodSize * s.config.frameBytes) (length / 2)
        (length / 2) r c.pending card = filled at hfill
      obtain ⟨answer, r', pending, card'⟩ := filled
      obtain ⟨hr', hchannels', henough⟩ := hfill
      have hsuits : ∀ left : List Sample, Capture.Suits
          { c with resampler := some r', pending := left } s.format := fun left r'' hr'' => by
        obtain rfl := Option.some.inj hr''
        exact ⟨hchannels'.trans hchannels, hr'⟩
      cases answer with
      | error e => exact ⟨hsuits _, fun _ h => nomatch h⟩
      | ok _ =>
        refine ⟨hsuits _, fun bytes hbytes => ?_⟩
        rw [← Except.ok.inj hbytes, Sample.length_toBytes, List.length_take,
          Nat.min_eq_left (henough rfl), heven]

end

variable {σ μ : Type}

/-! ## What leaves the capture streams alone -/

section

variable (d : Device σ μ)

@[simp] theorem inputs_converge (p : Path) (on : Bool) : (d.converge p on).inputs = d.inputs := by
  cases p <;> rfl

@[simp] theorem inputs_forgetInput (i : StreamId) : (d.forgetInput i).inputs = d.inputs := by
  unfold forgetInput
  split <;> rfl

@[simp] theorem inputs_forgetOutput (i : StreamId) : (d.forgetOutput i).inputs = d.inputs := by
  unfold forgetOutput
  split <;> rfl

@[simp] theorem inputs_openOutput : d.openOutput.2.inputs = d.inputs := by
  unfold openOutput
  split <;> rfl

@[simp] theorem inputs_rerouteInput (devices : DeviceSet) (on : Bool) :
    (d.rerouteInput devices on).inputs = d.inputs := by
  unfold rerouteInput
  simp only
  split <;> rfl

section

variable [ModemLink μ]

@[simp] theorem inputs_routeAll : d.routeAll.inputs = d.inputs := rfl

@[simp] theorem inputs_rerouteOutput (devices : DeviceSet) (on : Bool) :
    (d.rerouteOutput devices on).inputs = d.inputs := by
  unfold rerouteOutput
  simp only
  split
  next => rfl
  next => split <;> rfl

@[simp] theorem inputs_setParameters (text : String) :
    (d.setParameters text).inputs = d.inputs := by
  unfold setParameters
  split
  next => rfl
  next =>
    simp only
    split
    next => rfl
    next => split <;> rfl

@[simp] theorem inputs_setVoiceVolume (volume : Float32) :
    (d.setVoiceVolume volume).2.inputs = d.inputs := by
  unfold setVoiceVolume
  split
  next =>
    simp only
    split <;> rfl
  next => rfl

@[simp] theorem inputs_setOutputParameters (i : StreamId) (text : String) :
    (d.setOutputParameters i text).inputs = d.inputs := by
  unfold setOutputParameters
  split <;> simp

end

@[simp] theorem inputs_setInputParameters (i : StreamId) (text : String) :
    (d.setInputParameters i text).inputs = d.inputs := by
  unfold setInputParameters
  split <;> simp

variable [PcmDriver σ]

@[simp] theorem inputs_standbyOutput (i : StreamId) : (d.standbyOutput i).inputs = d.inputs := by
  unfold standbyOutput
  split <;> rfl

@[simp] theorem inputs_ensureOutput (i : StreamId) : (d.ensureOutput i).2.inputs = d.inputs := by
  unfold ensureOutput
  split
  next => rfl
  next =>
    unfold startOutput
    simp only
    split <;> rfl

@[simp] theorem inputs_writeOutput (i : StreamId) (bytes : List UInt8) :
    (d.writeOutput i bytes).2.inputs = d.inputs :=
  writeOutput_induction (P := fun e => e.inputs = d.inputs) rfl (fun _ _ => d.inputs_ensureOutput i)
    (fun _ _ _ _ _ h => h) (fun e h => (e.inputs_standbyOutput i).trans h)

@[simp] theorem inputs_startLoop : d.startLoop.inputs = d.inputs := by
  unfold startLoop
  split <;> rfl

end

section

variable [PcmDriver σ] [ModemLink μ] (d : Device σ μ)

/-- A call that is entered or left does to the capture streams what standby does. -/
theorem inputs_enterCall : d.enterCall.inputs = d.standbyAll.inputs := by
  have hrouted : d.standbyAll.enterCallDevices.routeAll.startLoop.inputs = d.standbyAll.inputs := by
    rw [inputs_startLoop, inputs_routeAll]
    rfl
  unfold enterCall
  generalize d.standbyAll.enterCallDevices.routeAll.startLoop = e at hrouted
  exact hrouted

theorem inputs_leaveCall :
    d.leaveCall.inputs = (d.setInCall false).stopLoop.standbyAll.inputs := by
  unfold leaveCall
  generalize (d.setInCall false).stopLoop.standbyAll = e
  rfl

end

/-! ## Streams stay fit -/

/-- Every capture stream is fit. -/
def InputsFit (d : Device σ μ) : Prop := ∀ s ∈ d.inputs, s.Fit

section

variable {d d' : Device σ μ} {i : StreamId}

/-- Capture streams fit as long as none changes. -/
theorem InputsFit.of_inputs (h : d.InputsFit) (hsame : d'.inputs = d.inputs) : d'.InputsFit := by
  intro s hs
  rw [hsame] at hs
  exact h s hs

/-- One stream changes. -/
theorem InputsFit.modify (h : d.InputsFit) {f : InputStream → InputStream}
    (hinputs : d'.inputs = d.inputs.modify i f)
    (hf : ∀ s, d.inputs[i]? = some s → s.Fit → (f s).Fit) : d'.InputsFit := by
  intro s hs
  rw [hinputs] at hs
  obtain ⟨j, hj⟩ := List.mem_iff_getElem?.1 hs
  rw [List.getElem?_modify] at hj
  obtain ⟨t, ht, hchanged⟩ := Option.map_eq_some_iff.1 hj
  have hfit := h t (List.mem_of_getElem? ht)
  by_cases hij : i = j
  · rw [if_pos hij] at hchanged
    rw [← hchanged]
    exact hf t (hij ▸ ht) hfit
  · rw [if_neg hij] at hchanged
    rw [← hchanged]
    exact hfit

theorem InputsFit.gate (h : d.InputsFit) {b : Bool} (h' : d'.InputsFit) :
    (if b then d' else d).InputsFit := by
  cases b with
  | true => exact h'
  | false => exact h

/-- A stream is opened in a format for capture, or not at all. -/
theorem InputsFit.openInput (h : d.InputsFit) (format : StreamFormat) :
    (d.openInput format).2.InputsFit := by
  unfold Device.openInput
  split
  next => exact h
  next hformat =>
    split
    next => exact h
    next =>
      intro s hs
      rcases List.mem_append.1 hs with hold | hnew
      · exact h s hold
      · obtain rfl := List.mem_singleton.1 hnew
        refine ⟨?_, fun c hc => nomatch hc⟩
        show format.isCapture = true
        unfold StreamFormat.isCapture
        rw [hformat]

variable [PcmDriver σ]

theorem InputsFit.dropInput (h : d.InputsFit) (i : StreamId) : (d.dropInput i).InputsFit :=
  h.modify rfl fun _ _ hs => ⟨hs.isCapture, fun _ hc => nomatch hc⟩

/-- A stream fits in standby, with what it keeps. -/
theorem InputsFit.standbyInput (h : d.InputsFit) (i : StreamId) : (d.standbyInput i).InputsFit := by
  unfold Device.standbyInput
  split
  next => exact h
  next =>
    exact h.modify (inputs_converge ..) fun _ _ hs => ⟨hs.isCapture, fun _ hc => nomatch hc⟩

theorem InputsFit.standbyAll (h : d.InputsFit) : d.standbyAll.InputsFit :=
  standbyAll_induction h (fun e i he => he.of_inputs (e.inputs_standbyOutput i))
    fun _ i he => he.standbyInput i

/-- What runs of a fit stream suits its format. -/
theorem InputsFit.ensureInput (h : d.InputsFit) {s : InputStream} (hs : d.inputs[i]? = some s) :
    (d.ensureInput i s).2.InputsFit ∧
      ∀ c, (d.ensureInput i s).1 = .ok c → c.Suits s.format := by
  have hfit := h s (List.mem_of_getElem? hs)
  unfold Device.ensureInput
  split
  next c hc =>
    obtain ⟨t, ht, hrunning⟩ := capture?_eq_some hc
    obtain rfl := Option.some.inj (hs.symm.trans ht)
    refine ⟨h, fun c' hc' => ?_⟩
    rw [← Except.ok.inj hc']
    exact hfit.suits c hrunning
  next =>
    have hconverged : (d.converge .input true).inputs[i]? = some s := by
      rw [inputs_converge]
      exact hs
    unfold startInput
    simp only
    split
    next id card _ =>
      have hsuits := suits_resamplerFor hfit.isCapture id
      refine ⟨h.modify (congrArg (List.modify · i _) (inputs_converge d ..)) fun t ht _ => ?_,
        fun c hc => ?_⟩
      · obtain rfl := Option.some.inj (hs.symm.trans ht)
        refine ⟨hfit.isCapture, fun c hc => ?_⟩
        rw [← Option.some.inj hc]
        exact hsuits
      · rw [← Except.ok.inj hc]
        exact hsuits
    next => exact ⟨h.of_inputs rfl, fun c hc => nomatch hc⟩

/-- A read of a fit stream gives all bytes, and leaves the stream fit. -/
theorem InputsFit.readInput [FillsReads σ] (h : d.InputsFit) (i : StreamId) (length : Nat) :
    (d.readInput i length).2.InputsFit ∧
      ∀ bytes, (d.readInput i length).1 = .ok bytes → bytes.length = length := by
  unfold Device.readInput
  split
  next => exact ⟨h, fun bytes hbytes => nomatch hbytes⟩
  next s hheld =>
    have hs := heldInput?_eq_some hheld
    have hfit := h s (List.mem_of_getElem? hs)
    obtain ⟨hstarted, hsuits⟩ := h.ensureInput hs
    split
    next e d' hresult =>
      rw [hresult] at hstarted
      exact ⟨hstarted, fun bytes hbytes => nomatch hbytes⟩
    next c d' hresult =>
      have hrunning := getElem?_ensureInput hs hresult
      rw [hresult] at hstarted hsuits
      obtain ⟨hsuits', hlength⟩ := readCapture_suits hfit.isCapture (hsuits c rfl) length d'.card
      rcases hread : readCapture s.config c length d'.card with ⟨answer, c', card⟩
      rw [hread] at hsuits' hlength
      have htaken : InputsFit ({ d' with card }.setInput i (some c')) :=
        hstarted.modify rfl fun t ht _ => by
          -- the stream is the one that was started, so its format is that of the read
          obtain rfl := Option.some.inj (hrunning.symm.trans ht)
          refine ⟨hfit.isCapture, fun c'' hc'' => ?_⟩
          rw [← Option.some.inj hc'']
          exact hsuits'
      cases answer with
      | error e => exact ⟨htaken.standbyInput i, fun bytes hbytes => nomatch hbytes⟩
      | ok bytes =>
        refine ⟨htaken, fun bytes' hbytes' => ?_⟩
        rw [← Except.ok.inj hbytes']
        split
        next => exact List.length_replicate
        next => exact hlength bytes rfl

end

/-! ## Runs -/

section

variable [PcmDriver σ] [ModemLink μ] {d : Device σ μ}

theorem InputsFit.enterCall (h : d.InputsFit) : d.enterCall.InputsFit :=
  h.standbyAll.of_inputs d.inputs_enterCall

theorem InputsFit.leaveCall (h : d.InputsFit) : d.leaveCall.InputsFit := by
  have hstopped : ((d.setInCall false).stopLoop).InputsFit := h.of_inputs rfl
  exact hstopped.standbyAll.of_inputs d.inputs_leaveCall

/-- Calls leave the streams as they fit. -/
theorem InputsFit.setMode (h : d.InputsFit) (mode : Mode) : (d.setMode mode).InputsFit := by
  have hset : InputsFit { d with routing := { d.routing with mode } } := h.of_inputs rfl
  unfold Device.setMode
  split
  next => exact h
  next =>
    simp only
    split
    next =>
      split
      next => exact hset
      next => exact hset.enterCall
    next =>
      split
      next => exact hset.leaveCall
      next => exact hset

/-- **One operation** leaves all capture streams fit. -/
theorem InputsFit.step [FillsReads σ] (h : d.InputsFit) (op : Operation) :
    (d.step op).2.InputsFit := by
  cases op with
  | check | setMasterVolume | setMicMute | micMute | parameters | captureBuffer =>
    exact h.of_inputs rfl
  | isStandbyOutput i | outputParameters i | setOutputVolume i | renderPosition i | latency i =>
    simp only [Device.step, onOutput_snd, ite_self]
    exact h
  | isStandbyInput i | inputParameters i | setInputGain i | lostFrames i =>
    simp only [Device.step, onInput_snd, ite_self]
    exact h
  | setParameters text => exact h.of_inputs (d.inputs_setParameters text)
  | routeOutput devices => exact h.of_inputs (d.inputs_rerouteOutput devices _)
  | setVoiceVolume volume =>
    rw [step_setVoiceVolume_snd]
    exact h.of_inputs (d.inputs_setVoiceVolume volume)
  | setMode code =>
    simp only [Device.step]
    cases Mode.ofCode? code with
    | none => exact h
    | some mode => exact h.setMode mode
  | openOutput _ =>
    rw [step_openOutput_snd]
    exact h.of_inputs d.inputs_openOutput
  | openInput _ format =>
    rw [step_openInput_snd]
    exact h.openInput format
  | closeOutput i =>
    simp only [Device.step, onOutput_snd]
    exact h.gate (h.of_inputs (by simp [closeOutput]))
  | closeInput i =>
    simp only [Device.step, onInput_snd]
    exact h.gate ((h.standbyInput i).of_inputs (inputs_forgetInput ..))
  | dropOutput i =>
    simp only [Device.step, onOutput_snd]
    exact h.gate (h.of_inputs rfl)
  | dropInput i =>
    simp only [Device.step, onInput_snd]
    exact h.gate (h.dropInput i)
  | write i bytes =>
    rw [step_write_snd]
    exact h.of_inputs (d.inputs_writeOutput i bytes)
  | read i length =>
    rw [step_read_snd]
    exact (h.readInput i length).1
  | standbyOutput i =>
    simp only [Device.step, onOutput_snd]
    exact h.gate (h.of_inputs (d.inputs_standbyOutput i))
  | standbyInput i =>
    simp only [Device.step, onInput_snd]
    exact h.gate (h.standbyInput i)
  | setOutputParameters i text =>
    simp only [Device.step, onOutput_snd]
    exact h.gate (h.of_inputs (d.inputs_setOutputParameters i text))
  | setInputParameters i text =>
    simp only [Device.step, onInput_snd]
    exact h.gate (h.of_inputs (d.inputs_setInputParameters i text))

/-- **Each run** leaves all capture streams fit. -/
theorem InputsFit.play [FillsReads σ] (h : d.InputsFit) (events : List (Event σ μ)) :
    (d.play events).InputsFit := by
  induction events generalizing d with
  | nil => exact h
  | cons e events ih =>
    refine ih (d := d.happen e) ?_
    cases e with
    | operation op => exact h.step op
    | card | modem => exact h.of_inputs rfl

omit [PcmDriver σ] in
/-- A device starts without capture streams. -/
theorem inputsFit_acquire {config : Config} {mixer : Mixer} {card : σ} {link : μ}
    (hopen : Device.acquire config mixer card link = .ok d) : d.InputsFit := by
  intro s hs
  rw [(acquire_pcm hopen).2.2.2] at hs
  cases hs

/-- In every run, a read that succeeds gives as many bytes as asked for. -/
theorem length_readInput [FillsReads σ] {config : Config} {mixer : Mixer} {card : σ} {link : μ}
    {d₀ : Device σ μ} (hopen : Device.acquire config mixer card link = .ok d₀)
    (events : List (Event σ μ)) {i : StreamId} {length : Nat} {bytes : List UInt8}
    (hread : ((d₀.play events).readInput i length).1 = .ok bytes) : bytes.length = length :=
  (((inputsFit_acquire hopen).play events).readInput i length).2 bytes hread

end

end Device

end HandsetAudio
