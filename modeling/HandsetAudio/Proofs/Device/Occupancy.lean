import HandsetAudio.Proofs.Device.Paths
import HandsetAudio.Proofs.Device.Turns
import HandsetAudio.Proofs.Logs

/-!
# One stream per direction

Clients can tell which streams are open from what they did and what they were answered
(`history`): those that were opened, and neither closed nor dropped since (`Live`). The device
remembers less, the stream of a direction that was opened last and who has which, but it is
enough:

> `live_iff`: in every run the live stream of a direction is the active one.

> `one_stream_per_direction`: so a stream can be opened exactly where none is live, the status
> shows the live stream, and closing a stream does not concern another one.
-/

namespace HandsetAudio

/-- The word for a stream of the direction. -/
def Path.word : Path → String
  | .output => "output"
  | .input => "input"

/-- The direction has streams of the format; playback does not look at it. -/
def Path.Takes : Path → StreamFormat → Prop
  | .output, _ => True
  | .input, f => (1 ≤ f.channels ∧ f.channels ≤ 2) ∧ f.rate ∈ StreamFormat.captureRates

instance Path.decidableTakes : (p : Path) → (f : StreamFormat) → Decidable (p.Takes f)
  | .output, _ => isTrue trivial
  | .input, _ => inferInstanceAs (Decidable (_ ∧ _))

namespace Operation

/-- Opens a stream of a direction. -/
def opening : Path → DeviceSet → StreamFormat → Operation
  | .output, devices, _ => .openOutput devices
  | .input, devices, format => .openInput devices format

/-- Asks whether a stream of a direction is in standby. -/
def isStandby : Path → StreamId → Operation
  | .output, i => .isStandbyOutput i
  | .input, i => .isStandbyInput i

/-- The direction in which an operation opens a stream. -/
def opens? : Operation → Option Path
  | .openOutput _ => some .output
  | .openInput _ _ => some .input
  | _ => none

/-- The stream that an operation closes or drops. -/
def ends? (op : Operation) : Option (Path × StreamId) := op.closes?.or op.drops?

theorem exists_opening {op : Operation} {p : Path} (h : op.opens? = some p) :
    ∃ devices format, op = opening p devices format := by
  cases op with
  | openOutput devices =>
    obtain rfl := Option.some.inj h
    exact ⟨devices, .playback, rfl⟩
  | openInput devices format =>
    obtain rfl := Option.some.inj h
    exact ⟨devices, format, rfl⟩
  | _ => cases h

end Operation

/-- An operation of a client, with its answer. -/
structure Exchange where
  operation : Operation
  answer : Except AudioError Reply

namespace Exchange

/-- The stream that was opened. -/
def opened? (e : Exchange) : Option (Path × StreamId) :=
  match e.operation.opens?, e.answer with
  | some p, .ok (.opened i _) => some (p, i)
  | _, _ => none

/-- A refusal opens nothing. -/
theorem opened?_error (op : Operation) (e : AudioError) : opened? ⟨op, .error e⟩ = none := by
  unfold opened?
  cases op.opens? <;> rfl

/-- The stream was opened, and neither closed nor dropped since. -/
def Live (history : List Exchange) (s : Path × StreamId) : Prop :=
  ∃ before e after, history = before ++ e :: after ∧ e.opened? = some s ∧
    ∀ later ∈ after, later.operation.ends? ≠ some s

theorem not_live_nil (s : Path × StreamId) : ¬Live [] s := not_since_nil

/-- An exchange makes the stream live that it opened, and ends the one that it is about. -/
theorem live_concat {history : List Exchange} {e : Exchange} {s : Path × StreamId} :
    Live (history ++ [e]) s ↔
      e.opened? = some s ∨ Live history s ∧ e.operation.ends? ≠ some s := since_concat

end Exchange

namespace Device

open Exchange

variable {σ μ : Type}

/-! ## Opening -/

theorem checkCapture_of_takes {format : StreamFormat} (h : Path.Takes .input format) :
    format.checkCapture = .ok () := by
  unfold StreamFormat.checkCapture
  rw [if_neg (not_not_intro h.1), if_neg (not_not_intro h.2)]

theorem checkCapture_of_not_takes {format : StreamFormat} (h : ¬Path.Takes .input format) :
    ∃ why, format.checkCapture = .error (.invalidArgument why) := by
  unfold StreamFormat.checkCapture
  by_cases hchannels : 1 ≤ format.channels ∧ format.channels ≤ 2
  · have hrate : format.rate ∉ StreamFormat.captureRates := fun hrate => h ⟨hchannels, hrate⟩
    rw [if_neg (not_not_intro hchannels), if_pos hrate]
    exact ⟨_, rfl⟩
  · rw [if_pos hchannels]
    exact ⟨_, rfl⟩

/-- The standby flag of a direction. -/
def Status.standby (s : Status) : Path → Option Bool
  | .output => s.outputStandby
  | .input => s.inputStandby

/-- The status shows the standby flag of the active stream. -/
theorem standby_status (d : Device σ μ) (p : Path) :
    d.status.standby p = (d.line p).active?.map fun i => !(d.line p).running i := by
  cases p with
  | output => exact d.outputStandby?_eq
  | input => exact d.inputStandby?_eq

section

variable [PcmDriver σ] [ModemLink μ]

/-- A format that the direction has no streams of is rejected first. -/
theorem step_opening_rejected (d : Device σ μ) {p : Path} (devices : DeviceSet)
    {format : StreamFormat} (h : ¬p.Takes format) :
    ∃ why, d.step (.opening p devices format) = (.error (.invalidArgument why), d) := by
  cases p with
  | output => exact absurd trivial h
  | input =>
    obtain ⟨why, hcheck⟩ := checkCapture_of_not_takes h
    refine ⟨why, ?_⟩
    simp only [Operation.opening, step, openInput, hcheck]

/-- Where a stream is active, none is opened. -/
theorem step_opening_busy {d : Device σ μ} {p : Path} {i : StreamId}
    (hactive : (d.line p).active? = some i) (devices : DeviceSet) {format : StreamFormat}
    (h : p.Takes format) : d.step (.opening p devices format) = (.error (.busy p.word), d) := by
  cases p with
  | output =>
    rw [active_output] at hactive
    simp only [Operation.opening, step, openOutput, hactive, Option.isSome_some, if_true]
    rfl
  | input =>
    rw [active_input] at hactive
    simp only [Operation.opening, step, openInput, checkCapture_of_takes h, hactive,
      Option.isSome_some, if_true]
    rfl

/-- Where none is active, one is opened. -/
theorem step_opening_free {d : Device σ μ} {p : Path} (hactive : (d.line p).active? = none)
    (devices : DeviceSet) {format : StreamFormat} (h : p.Takes format) :
    ∃ granted d', d.step (.opening p devices format) =
        (.ok (.opened (d.line p).streams.length granted), d') ∧
      d.Effect p (d.line p).push [] d' := by
  cases p with
  | output =>
    rw [active_output] at hactive
    refine ⟨.playback, { d with
      outputs := d.outputs ++ [{}], lastOutput := some d.outputs.length }, ?_, ?_⟩
    · simp [Operation.opening, step, openOutput, hactive, line]
    · refine ⟨?_, other_of_output rfl, rfl, rfl⟩
      simp [line, Line.push]
  | input =>
    rw [active_input] at hactive
    refine ⟨format, { d with
      inputs := d.inputs ++ [{ format }], lastInput := some d.inputs.length }, ?_, ?_⟩
    · simp [Operation.opening, step, openInput, checkCapture_of_takes h, hactive, line]
    · refine ⟨?_, other_of_input rfl, rfl, rfl⟩
      simp [line, Line.push, InputStream.running]

end

/-! ## Who is active after an operation -/

/-- The streams of one direction change; those of the other do not. -/
theorem Effect.active? {d d' : Device σ μ} {q : Path} {l : Line} {ons : List Bool}
    (h : d.Effect q l ons d') (hl : l.active? = (d.line q).active?) (p : Path) :
    (d'.line p).active? = (d.line p).active? := by
  by_cases hp : p = q
  · rw [hp, h.line, hl]
  · rw [h.other p hp]

/-- A stream that a client has ends; no other one does. -/
theorem Effect.active?_ends {d d' : Device σ μ} {q : Path} {j : StreamId} {l : Line}
    {ons : List Bool} (h : d.Effect q l ons d')
    (hl : ∀ i, l.active? = some i ↔ (d.line q).active? = some i ∧ i ≠ j) (p : Path)
    (i : StreamId) :
    ((if (d.line q).held j then d' else d).line p).active? = some i ↔
      (d.line p).active? = some i ∧ (q, j) ≠ (p, i) := by
  by_cases hp : p = q
  · subst hp
    have hpair : (p, j) ≠ (p, i) ↔ i ≠ j := by
      rw [ne_eq, Prod.mk.injEq, eq_self, true_and]
      exact ne_comm
    rw [hpair]
    by_cases hheld : (d.line p).held j = true
    · rw [if_pos hheld, h.line]
      exact hl i
    · rw [if_neg hheld]
      refine ⟨fun hactive => ⟨hactive, ?_⟩, And.left⟩
      rintro rfl
      exact hheld (Line.active?_eq_some_iff.1 hactive).2
  · have hpair : (q, j) ≠ (p, i) := fun heq => hp (Prod.mk.inj heq).1.symm
    have hline : ((if (d.line q).held j then d' else d).line p) = d.line p := by
      split
      next => exact h.other p hp
      next => rfl
    rw [hline]
    exact ⟨fun hactive => ⟨hactive, hpair⟩, And.left⟩

theorem line_rerouteInput (d : Device σ μ) (devices : DeviceSet) (on : Bool) (p : Path) :
    (d.rerouteInput devices on).line p = d.line p := by
  cases hreroutes : d.reroutes .input devices with
  | false => rw [rerouteInput_of_not_reroutes hreroutes]
  | true => exact (rerouted_input hreroutes on).line p

variable [ModemLink μ]

theorem line_rerouteOutput (d : Device σ μ) (devices : DeviceSet) (on : Bool) (p : Path) :
    (d.rerouteOutput devices on).line p = d.line p := by
  cases hreroutes : d.reroutes .output devices with
  | false => rw [rerouteOutput_of_not_reroutes hreroutes]
  | true => exact (rerouted_output hreroutes on).line p

variable [PcmDriver σ]

/-- A mode may put the active streams in standby, and leaves them active. -/
theorem active?_setMode (d : Device σ μ) (m : Mode) (p : Path) :
    ((d.setMode m).line p).active? = (d.line p).active? := by
  have hmode : ∀ (d' : Device σ μ),
      ({ d with routing := { d.routing with mode := m } }).Regrouped d' →
        (d'.line p).active? = (d.line p).active? := by
    intro d' hregrouped
    rw [hregrouped.line, Line.active?_standby]
    cases p <;> rfl
  unfold setMode
  split
  next => rfl
  next =>
    simp only
    split
    next =>
      split
      next => cases p <;> rfl
      next => exact hmode _ (regrouped_enterCall _)
    next =>
      split
      next => exact hmode _ (regrouped_leaveCall _)
      next => cases p <;> rfl

/-- An operation that ends a stream ends no other. -/
theorem active?_step_ends (d : Device σ μ) {op : Operation} {q : Path} {j : StreamId}
    (hends : op.ends? = some (q, j)) (p : Path) (i : StreamId) :
    ((d.step op).2.line p).active? = some i ↔ (d.line p).active? = some i ∧ (q, j) ≠ (p, i) := by
  have hclose : ∀ q, ∀ i, (((d.line q).mark j false).forget j).active? = some i ↔
      (d.line q).active? = some i ∧ i ≠ j := by
    intro q i
    rw [Line.active?_forget, Line.active?_mark]
  have hdrop : ∀ q, ∀ i, ((d.line q).release j).active? = some i ↔
      (d.line q).active? = some i ∧ i ≠ j := fun q i => Line.active?_release _ j
  cases op with
  | closeOutput k =>
    obtain ⟨rfl, rfl⟩ := Prod.mk.inj (Option.some.inj hends)
    simp only [step, onOutput_snd]
    exact (effect_closeOutput rfl k).active?_ends (hclose .output) p i
  | closeInput k =>
    obtain ⟨rfl, rfl⟩ := Prod.mk.inj (Option.some.inj hends)
    simp only [step, onInput_snd]
    exact (effect_closeInput rfl k).active?_ends (hclose .input) p i
  | dropOutput k =>
    obtain ⟨rfl, rfl⟩ := Prod.mk.inj (Option.some.inj hends)
    simp only [step, onOutput_snd]
    exact (effect_dropOutput rfl k).active?_ends (hdrop .output) p i
  | dropInput k =>
    obtain ⟨rfl, rfl⟩ := Prod.mk.inj (Option.some.inj hends)
    simp only [step, onInput_snd]
    exact (effect_dropInput rfl k).active?_ends (hdrop .input) p i
  | _ => cases hends

/-- An operation that opens and ends no stream leaves the active ones active. -/
theorem active?_step_steady (d : Device σ μ) {op : Operation} (hopens : op.opens? = none)
    (hends : op.ends? = none) (p : Path) :
    ((d.step op).2.line p).active? = (d.line p).active? := by
  have hgate : ∀ {d' : Device σ μ} (b : Bool), (d'.line p).active? = (d.line p).active? →
      ((if b then d' else d).line p).active? = (d.line p).active? := by
    intro d' b hsame
    cases b with
    | true => exact hsame
    | false => rfl
  cases op with
  | openOutput | openInput => cases hopens
  | closeOutput | closeInput | dropOutput | dropInput => cases hends
  | check | setMasterVolume | micMute | parameters | captureBuffer => rfl
  | isStandbyOutput i | outputParameters i | setOutputVolume i | renderPosition i | latency i =>
    simp only [step, onOutput_snd, ite_self]
  | isStandbyInput i | inputParameters i | setInputGain i | lostFrames i =>
    simp only [step, onInput_snd, ite_self]
  | setMode code =>
    simp only [step]
    cases Mode.ofCode? code with
    | none => rfl
    | some m => exact d.active?_setMode m p
  | setMicMute on => exact congrArg Line.active? ((d.quiet_setMicMute on).line p)
  | setParameters text => exact congrArg Line.active? ((d.quiet_setParameters text).line p)
  | setVoiceVolume volume =>
    rw [step_setVoiceVolume_snd]
    exact congrArg Line.active? ((d.quiet_setVoiceVolume volume).line p)
  | routeOutput devices => exact congrArg Line.active? (d.line_rerouteOutput devices _ p)
  | setOutputParameters i text =>
    simp only [step, onOutput_snd, setOutputParameters]
    refine hgate _ ?_
    cases routedDevices? text with
    | none => rfl
    | some devices => exact congrArg Line.active? (d.line_rerouteOutput devices _ p)
  | setInputParameters i text =>
    simp only [step, onInput_snd, setInputParameters]
    refine hgate _ ?_
    cases routedDevices? text with
    | none => rfl
    | some devices => exact congrArg Line.active? (d.line_rerouteInput devices _ p)
  | standbyOutput i =>
    simp only [step, onOutput_snd]
    exact hgate _ ((effect_standbyOutput rfl i).active? (Line.active?_mark ..) p)
  | standbyInput i =>
    simp only [step, onInput_snd]
    exact hgate _ ((effect_standbyInput rfl i).active? (Line.active?_mark ..) p)
  | write i bytes =>
    rw [step_write_snd]
    cases hheld : (d.line .output).held i with
    | false => rw [writeOutput_of_not_held hheld]
    | true => exact (effect_writeOutput rfl hheld bytes).active? (Line.active?_mark ..) p
  | read i length =>
    rw [step_read_snd]
    cases hheld : (d.line .input).held i with
    | false => rw [readInput_of_not_held hheld]
    | true => exact (effect_readInput rfl hheld length).active? (Line.active?_mark ..) p

/-- **One operation**: active is the stream that it opens, or the one that was, unless it ends
that one. -/
theorem active?_step (d : Device σ μ) (op : Operation) (p : Path) (i : StreamId) :
    ((d.step op).2.line p).active? = some i ↔
      opened? ⟨op, (d.step op).1⟩ = some (p, i) ∨
        (d.line p).active? = some i ∧ op.ends? ≠ some (p, i) := by
  cases hopens : op.opens? with
  | none =>
    have hnothing : opened? ⟨op, (d.step op).1⟩ ≠ some (p, i) := by
      rw [opened?, hopens]
      exact fun h => (nomatch h)
    rw [or_iff_right hnothing]
    cases hends : op.ends? with
    | none =>
      rw [d.active?_step_steady hopens hends]
      exact ⟨fun h => ⟨h, fun hnone => (nomatch hnone)⟩, And.left⟩
    | some s =>
      rw [d.active?_step_ends (q := s.1) (j := s.2) hends, ne_eq, ne_eq, Option.some.injEq]
  | some q =>
    obtain ⟨devices, format, rfl⟩ := Operation.exists_opening hopens
    have hends : (Operation.opening q devices format).ends? = none := by cases q <;> rfl
    have hkeeps : (d.line p).active? = some i ∧
        (Operation.opening q devices format).ends? ≠ some (p, i) ↔
        (d.line p).active? = some i := by
      rw [hends]
      exact ⟨And.left, fun h => ⟨h, fun hnone => (nomatch hnone)⟩⟩
    rw [hkeeps]
    by_cases htakes : q.Takes format
    · cases hactive : (d.line q).active? with
      | some j =>
        rw [step_opening_busy hactive devices htakes, opened?_error]
        exact ⟨.inr, fun h => h.resolve_left fun hnone => (nomatch hnone)⟩
      | none =>
        obtain ⟨granted, d', hstep, heffect⟩ := step_opening_free hactive devices htakes
        have hopened : opened? ⟨.opening q devices format,
            .ok (.opened (d.line q).streams.length granted)⟩ =
              some (q, (d.line q).streams.length) := by
          rw [opened?, hopens]
        rw [hstep, hopened]
        by_cases hp : p = q
        · subst hp
          rw [heffect.line, Line.active?_push, hactive]
          simp
        · have hpair : (q, (d.line q).streams.length) ≠ (p, i) :=
            fun heq => hp (Prod.mk.inj heq).1.symm
          rw [heffect.other p hp, Option.some.injEq, or_iff_right hpair]
    · obtain ⟨why, hstep⟩ := d.step_opening_rejected devices htakes
      rw [hstep, opened?_error]
      exact ⟨.inr, fun h => h.resolve_left fun hnone => (nomatch hnone)⟩

/-! ## Runs -/

/-- What a client sees of an event. -/
def exchange (d : Device σ μ) : Event σ μ → List Exchange
  | .operation op => [⟨op, (d.step op).1⟩]
  | .card _ | .modem _ => []

/-- What clients see of a run. -/
def history (d : Device σ μ) : List (Event σ μ) → List Exchange
  | [] => []
  | e :: events => d.exchange e ++ (d.happen e).history events

theorem history_concat (d : Device σ μ) (events : List (Event σ μ)) (e : Event σ μ) :
    d.history (events ++ [e]) = d.history events ++ (d.play events).exchange e := by
  induction events generalizing d with
  | nil => exact List.append_nil _
  | cons e' events ih =>
    rw [List.cons_append, history, history, ih, List.append_assoc]
    rfl

/-- **The live stream** of a direction is the active one, in every run. -/
theorem live_iff {config : Config} {mixer : Mixer} {card : σ} {link : μ} {d₀ : Device σ μ}
    (hopen : Device.acquire config mixer card link = .ok d₀) (events : List (Event σ μ)) (p : Path)
    (i : StreamId) :
    Live (d₀.history events) (p, i) ↔ ((d₀.play events).line p).active? = some i := by
  induction events using List.reverseRecOn with
  | nil =>
    have hline : (d₀.line p).active? = none := by
      rw [(acquire_spec hopen).2.1]
      rfl
    show Live [] (p, i) ↔ (d₀.line p).active? = some i
    rw [hline]
    exact ⟨fun h => absurd h (not_live_nil _), fun h => (nomatch h)⟩
  | append_singleton events e ih =>
    rw [history_concat, play_concat]
    cases e with
    | operation op =>
      show Live (d₀.history events ++ [_]) (p, i) ↔
        (((d₀.play events).step op).2.line p).active? = some i
      rw [live_concat, ih, active?_step]
    | card | modem =>
      rw [exchange, List.append_nil, ih]
      cases p <;> rfl

/-- A client that has a stream can ask for its standby flag. -/
theorem step_isStandby {d : Device σ μ} {p : Path} {i : StreamId}
    (hheld : (d.line p).held i = true) :
    d.step (.isStandby p i) = (.ok (.flag !(d.line p).running i), d) := by
  cases p with
  | output =>
    obtain ⟨s, hs, hflag⟩ := exists_heldOutput hheld
    simp only [Operation.isStandby, step, onOutput, hs, hflag]
  | input =>
    obtain ⟨s, hs, hflag⟩ := exists_heldInput hheld
    simp only [Operation.isStandby, step, onInput, hs, hflag]

/-- **One stream per direction**, in every run of an open device, whatever else happens in it. At
most one stream of a direction is live. While one is, opening another is refused and changes
nothing; while none is, it succeeds; but a capture format that is not supported is rejected in
either case. The status shows the standby flag of the live stream. No close or drop frees the
place of another stream. -/
theorem one_stream_per_direction {config : Config} {mixer : Mixer} {card : σ} {link : μ}
    {d₀ : Device σ μ} (hopen : Device.acquire config mixer card link = .ok d₀)
    (events : List (Event σ μ)) :
    let d := d₀.play events
    let live (p : Path) (i : StreamId) : Prop := Live (d₀.history events) (p, i)
    (∀ p i j, live p i → live p j → i = j) ∧
      (∀ p devices (format : StreamFormat), ¬p.Takes format →
        ∃ why, d.step (.opening p devices format) = (.error (.invalidArgument why), d)) ∧
      (∀ p devices (format : StreamFormat), p.Takes format →
        (∀ i, live p i → d.step (.opening p devices format) = (.error (.busy p.word), d)) ∧
        ((∀ i, ¬live p i) →
          ∃ i granted, (d.step (.opening p devices format)).1 = .ok (.opened i granted))) ∧
      (∀ p,
        (∀ i, live p i →
          ∃ on, d.status.standby p = some on ∧ (d.step (.isStandby p i)).1 = .ok (.flag on)) ∧
        ((∀ i, ¬live p i) → d.status.standby p = none)) ∧
      ∀ op p i s, op.ends? = some s → s ≠ (p, i) → live p i →
        let d' := (d.step op).2
        (d'.status.standby p).isSome = true ∧
          ∀ devices (format : StreamFormat), p.Takes format →
            d'.step (.opening p devices format) = (.error (.busy p.word), d') := by
  intro d live
  have hlive : ∀ {p i}, live p i ↔ (d.line p).active? = some i := fun {p i} =>
    live_iff hopen events p i
  have hnone : ∀ {p}, (∀ i, ¬live p i) → (d.line p).active? = none := fun {p} h =>
    Option.eq_none_iff_forall_ne_some.2 fun i hi => h i (hlive.2 hi)
  refine ⟨?_, ?_, ?_, ?_, ?_⟩
  · intro p i j hi hj
    rw [hlive] at hi hj
    exact Option.some.inj (hi.symm.trans hj)
  · intro p devices format hformat
    exact d.step_opening_rejected devices hformat
  · intro p devices format hformat
    refine ⟨fun i hi => step_opening_busy (hlive.1 hi) devices hformat, fun hfree => ?_⟩
    obtain ⟨granted, d', hstep, -⟩ := step_opening_free (hnone hfree) devices hformat
    exact ⟨_, granted, congrArg Prod.fst hstep⟩
  · intro p
    rw [standby_status]
    refine ⟨fun i hi => ?_, fun hfree => ?_⟩
    · have hactive := hlive.1 hi
      rw [hactive, step_isStandby (Line.active?_eq_some_iff.1 hactive).2]
      exact ⟨_, rfl, rfl⟩
    · rw [hnone hfree]
      rfl
  · intro op p i s hends hne hi d'
    have hactive : (d'.line p).active? = some i :=
      (d.active?_step_ends (q := s.1) (j := s.2) hends p i).2 ⟨hlive.1 hi, hne⟩
    refine ⟨?_, fun devices format hformat => step_opening_busy hactive devices hformat⟩
    rw [standby_status, hactive]
    rfl

/-- A playback stream is closed, another one opened, and the first closed again; a capture stream
is dropped and another one opened. -/
theorem one_stream_after_stale_close :
    let mono : StreamFormat := { rate := 8000, channels := 1 }
    let events : List (Event SoftCard ModemRecorder) := [
      .operation (.openOutput .speaker),
      .operation (.closeOutput 0),
      .operation (.openOutput .earpiece),
      .operation (.closeOutput 0),
      .operation (.openInput .builtinMic mono),
      .operation (.dropInput 0),
      .operation (.openInput .builtinMic mono),
      .operation (.read 1 0)]
    let d := inSoftware.play events
    Device.acquire {} .ofTables {} {} = .ok inSoftware ∧
      Live (inSoftware.history events) (.output, 1) ∧
      Live (inSoftware.history events) (.input, 1) ∧
      d.step (.openOutput .speaker) = (.error (.busy "output"), d) ∧
      (∃ why, d.step (.openInput .builtinMic { mono with rate := 9000 }) =
        (.error (.invalidArgument why), d)) ∧
      d.status.standby .output = some true ∧ d.status.standby .input = some false := by
  intro mono events d
  obtain ⟨-, hrejected, hopening, -, -⟩ := one_stream_per_direction acquire_inSoftware events
  have hout : Live (inSoftware.history events) (.output, 1) :=
    (live_iff acquire_inSoftware events _ _).2 (by decide +kernel)
  have hin : Live (inSoftware.history events) (.input, 1) :=
    (live_iff acquire_inSoftware events _ _).2 (by decide +kernel)
  refine ⟨acquire_inSoftware, hout, hin, ?_, ?_, by decide +kernel, by decide +kernel⟩
  · exact (hopening .output .speaker .playback trivial).1 1 hout
  · exact hrejected .input .builtinMic { mono with rate := 9000 } (by decide)

end Device

end HandsetAudio
