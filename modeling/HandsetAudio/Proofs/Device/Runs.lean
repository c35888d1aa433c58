import HandsetAudio.Proofs.Device.Outcomes

/-!
# Careful runs of a device

A run is a list of `Event`s: what clients do, and what befalls the card and the modem
meanwhile. It is *careful* if clients do not use a stream after they closed it and drop
none that is out of standby. Main statement:

> `Settled.play`: throughout a careful run each path is in line with the facts of the last
> pass over it (`seen`), and these differ from the facts of the moment only in what
> `Facts.Alike` allows.

Which streams were closed is not remembered by the device. It need not be: a stream that a
client has and did not close is the one opened last (`Placed`).
-/

namespace HandsetAudio

/-- What can happen to a device: an operation, or a change of what it is connected to, be it
that failures set in or that a ring is fed. -/
inductive Device.Event (σ μ : Type) where
  /-- A client does something. -/
  | operation (op : Operation)
  /-- The sound card changes by itself. -/
  | card (change : σ → σ)
  /-- The modem changes by itself. -/
  | modem (change : μ → μ)

namespace Device

variable {σ μ : Type} [PcmDriver σ] [ModemLink μ]

/-- The device after an event. -/
def happen (d : Device σ μ) : Event σ μ → Device σ μ
  | .operation op => (d.step op).2
  | .card change => { d with card := change d.card }
  | .modem change => { d with modem := { d.modem with link := change d.modem.link } }

/-- The device after several events. -/
def play (d : Device σ μ) (events : List (Event σ μ)) : Device σ μ := events.foldl happen d

/-- The stream that an event closes, as a list. -/
def closing (d : Device σ μ) : Event σ μ → List (Path × StreamId)
  | .operation op => (op.closes?.filter fun s => (d.line s.1).held s.2).toList
  | _ => []

/-- An event uses none of the closed streams, and drops none that is out of standby. -/
def Heeds (d : Device σ μ) (closed : List (Path × StreamId)) : Event σ μ → Prop
  | .operation op =>
    (∀ s ∈ op.uses?, s ∉ closed) ∧ ∀ s ∈ op.drops?, (d.line s.1).running s.2 = false
  | _ => True

/-- A run in which clients use no stream after they closed it, and drop none that is out of
standby; some streams may be closed already. -/
def Careful (d : Device σ μ) (closed : List (Path × StreamId)) : List (Event σ μ) → Prop
  | [] => True
  | e :: events => d.Heeds closed e ∧ (d.happen e).Careful (closed ++ d.closing e) events

instance decidableHeeds (d : Device σ μ) (closed : List (Path × StreamId)) :
    (e : Event σ μ) → Decidable (d.Heeds closed e)
  | .operation _ => inferInstanceAs (Decidable (_ ∧ _))
  | .card _ => isTrue trivial
  | .modem _ => isTrue trivial

instance decidableCareful (d : Device σ μ) (closed : List (Path × StreamId)) :
    (events : List (Event σ μ)) → Decidable (d.Careful closed events)
  | [] => isTrue trivial
  | e :: events =>
    have := decidableCareful (d.happen e) (closed ++ d.closing e) events
    inferInstanceAs (Decidable (_ ∧ _))

/-- Whether an event passes over a path. -/
def passesAt (d : Device σ μ) (p : Path) : Event σ μ → Bool
  | .operation op => d.passes p op
  | _ => false

/-- The facts of the last pass over a path in a run, or what they were before. -/
def seen (d : Device σ μ) (p : Path) (before : Facts) : List (Event σ μ) → Facts
  | [] => before
  | e :: events =>
    (d.happen e).seen p (if d.passesAt p e then (d.happen e).now p else before) events

/-- A stream that a client has and did not close is the one opened last. -/
def Placed (d : Device σ μ) (closed : List (Path × StreamId)) : Prop :=
  ∀ p i, (d.line p).held i = true → (p, i) ∉ closed → (d.line p).last = some i

/-- What holds throughout a careful run. -/
structure Settled (d : Device σ μ) (closed : List (Path × StreamId)) (facts : Path → Facts) :
    Prop where
  orderly : d.Orderly
  placed : d.Placed closed
  inLine : ∀ p, (d.codec.reconciler p).InLine (facts p)
  alike : ∀ p, (facts p).Alike p (d.now p)

/-! ## One event -/

omit [PcmDriver σ] [ModemLink μ] in
/-- A closed stream is on the list afterwards. -/
theorem mem_closing {d : Device σ μ} {op : Operation} {p : Path} {i : StreamId}
    (hop : op.closes? = some (p, i)) (hheld : (d.line p).held i = true) :
    (p, i) ∈ d.closing (.operation op) := by
  simp only [closing, hop]
  rw [Option.filter_some, if_pos hheld]
  exact List.mem_singleton_self _

/-- Whatever clients do, the streams that they have and did not close stay in place. -/
theorem Placed.step {d : Device σ μ} {closed : List (Path × StreamId)} (h : d.Placed closed)
    (op : Operation) : (d.step op).2.Placed (closed ++ d.closing (.operation op)) := by
  intro p i hheld hopen
  have hbefore : (p, i) ∉ closed := fun hmem => hopen (List.mem_append_left _ hmem)
  have hline := (d.step_behaves op).line p
  generalize (d.step op).2.line p = l at hline hheld ⊢
  cases hline with
  | same hsame hlast _ => rw [hlast]; exact h p i (hsame i ▸ hheld) hbefore
  | opened hidle =>
    rw [Line.held_push, Bool.or_eq_true, decide_eq_true_eq] at hheld
    rcases hheld with hold | rfl
    · -- a stream that is held and not closed would have been active
      have hlast := h p i hold hbefore
      unfold Line.active? at hidle
      rw [hlast, Option.filter_some, if_pos hold] at hidle
      cases hidle
    · rfl
  | closed hop hclosed =>
    rw [Line.held_forget, Line.held_mark] at hheld
    have hlast := h p i hheld hbefore
    rw [Line.last_forget, Line.last_mark, hlast]
    refine if_neg fun heq => hopen (List.mem_append_right _ ?_)
    rw [Option.some.inj heq]
    exact mem_closing hop hclosed
  | @dropped j hop hdropped =>
    have hne : j ≠ i := by
      rintro rfl
      rw [Line.held_release_self] at hheld
      cases hheld
    rw [Line.held_release_of_ne _ hne] at hheld
    exact h p i hheld hbefore

omit [PcmDriver σ] [ModemLink μ] in
/-- A careful operation uses streams in place only. -/
theorem Placed.minds {d : Device σ μ} {closed : List (Path × StreamId)} (h : d.Placed closed)
    {op : Operation} (hheeds : d.Heeds closed (.operation op)) : d.Minds op where
  uses p i huse hheld := h p i hheld (hheeds.1 (p, i) huse)
  drops p i hdrop := hheeds.2 (p, i) hdrop

omit [PcmDriver σ] [ModemLink μ] in
theorem quiet_card (d : Device σ μ) (card : σ) : d.Quiet { d with card } :=
  ⟨fun p => by cases p <;> rfl, rfl, rfl, rfl, rfl⟩

omit [PcmDriver σ] [ModemLink μ] in
theorem quiet_modem (d : Device σ μ) (modem : ModemClient μ) : d.Quiet { d with modem } :=
  ⟨fun p => by cases p <;> rfl, rfl, rfl, rfl, rfl⟩

section

variable {d : Device σ μ} {closed : List (Path × StreamId)} {e : Event σ μ}

omit [PcmDriver σ] [ModemLink μ] in
theorem Placed.quiet {d' : Device σ μ} (h : d.Placed closed) (hquiet : d.Quiet d') :
    d'.Placed closed := by
  intro p i hheld hopen
  rw [hquiet.line] at *
  exact h p i hheld hopen

theorem Placed.happen (h : d.Placed closed) (e : Event σ μ) :
    (d.happen e).Placed (closed ++ d.closing e) := by
  cases e with
  | operation op => exact h.step op
  | card change => exact (List.append_nil closed).symm ▸ h.quiet (quiet_card d _)
  | modem change => exact (List.append_nil closed).symm ▸ h.quiet (quiet_modem d _)

/-- A careful event carries both paths along. -/
theorem happen_proceeds (h : d.Orderly) (hplaced : d.Placed closed) (hheeds : d.Heeds closed e) :
    d.Proceeds (d.happen e) fun p => d.passesAt p e := by
  cases e with
  | operation op => exact step_proceeds h (hplaced.minds hheeds)
  | card change => exact Proceeds.quiet h (quiet_card d _)
  | modem change => exact Proceeds.quiet h (quiet_modem d _)

/-- All that the codec hears of an event are calls on its reconcilers. -/
theorem reaches_happen (d : Device σ μ) (e : Event σ μ) :
    d.codec.Reaches (d.happen e).codec := by
  cases e with
  | operation op => exact (d.step_behaves op).reaches
  | card change => exact .refl _
  | modem change => exact .refl _

/-- A careful event leaves each path in line with the facts of the last pass over it. -/
theorem Settled.happen {facts : Path → Facts} (h : d.Settled closed facts)
    (hheeds : d.Heeds closed e) :
    (d.happen e).Settled (closed ++ d.closing e)
      (fun p => if d.passesAt p e then (d.happen e).now p else facts p) := by
  have hproceeds := happen_proceeds h.orderly h.placed hheeds
  refine ⟨hproceeds.orderly, h.placed.happen e, fun p => ?_, fun p => ?_⟩
  · have hcarries := hproceeds.carries p
    cases hpassed : d.passesAt p e with
    | true =>
      rw [hpassed] at hcarries
      exact hcarries
    | false =>
      rw [hpassed] at hcarries
      rw [hcarries.1]
      exact h.inLine p
  · have hcarries := hproceeds.carries p
    cases hpassed : d.passesAt p e with
    | true => exact .refl ..
    | false =>
      rw [hpassed] at hcarries
      exact (h.alike p).trans hcarries.2

end

/-! ## Runs -/

theorem reaches_play (d : Device σ μ) (events : List (Event σ μ)) :
    d.codec.Reaches (d.play events).codec := by
  induction events generalizing d with
  | nil => exact .refl _
  | cons e events ih => exact (d.reaches_happen e).trans (ih _)

/-- What holds of the streams of a direction whatever any operation does to them, holds
throughout every run. -/
theorem line_play {P : Line → Prop} {p : Path}
    (hstep : ∀ {l l' op}, LineStep l op p l' → P l → P l') {d : Device σ μ} (h : P (d.line p))
    (events : List (Event σ μ)) : P ((d.play events).line p) := by
  induction events generalizing d with
  | nil => exact h
  | cons e events ih =>
    refine ih (d := d.happen e) ?_
    cases e with
    | operation op => exact hstep ((d.step_behaves op).line p) h
    | card | modem => cases p <;> exact h

/-- **Careful runs** leave each path in line with the facts of the last pass over it. -/
theorem Settled.play {d : Device σ μ} {closed : List (Path × StreamId)} {facts : Path → Facts}
    (h : d.Settled closed facts) {events : List (Event σ μ)} (hcareful : d.Careful closed events) :
    ∃ closed', (d.play events).Settled closed' fun p => d.seen p (facts p) events := by
  induction events generalizing d closed facts with
  | nil => exact ⟨closed, h⟩
  | cons e events ih =>
    obtain ⟨hheeds, hrest⟩ := hcareful
    exact ih (h.happen hheeds) hrest

/-! ## The start -/

section

variable {config : Config} {mixer : Mixer} {card : σ} {link : μ} {d : Device σ μ}

omit [PcmDriver σ] in
/-- An open device has no streams and the default routing; its codec was reset, capture
first. -/
theorem acquire_spec (h : Device.acquire config mixer card link = .ok d) :
    d.routing = {} ∧ (∀ p, d.line p = ⟨[], none⟩) ∧
      d.codec = (Codec.fresh mixer).run [(.input, .reset), (.output, .reset)] := by
  unfold Device.acquire at h
  simp only at h
  split at h
  next => cases h
  next modem link' _ =>
    obtain rfl := Except.ok.inj h
    refine ⟨rfl, fun p => by cases p <;> rfl, ?_⟩
    rw [Codec.fresh, Codec.run_resets, codec]

/-- No stream runs that no client has. -/
theorem attended_play (h : Device.acquire config mixer card link = .ok d)
    (events : List (Event σ μ)) (p : Path) : ((d.play events).line p).Attended := by
  refine line_play LineStep.attended ?_ events
  intro i hi
  rw [(acquire_spec h).2.1 p] at hi
  cases hi

omit [PcmDriver σ] in
/-- No substreams are opened for an open device. -/
theorem acquire_pcm (h : Device.acquire config mixer card link = .ok d) :
    d.card = card ∧ d.loop = {} ∧ d.outputs = [] ∧ d.inputs = [] := by
  unfold Device.acquire at h
  simp only at h
  split at h
  next => cases h
  next modem link' _ =>
    obtain rfl := Except.ok.inj h
    exact ⟨rfl, rfl, rfl, rfl⟩

omit [PcmDriver σ] in
/-- An open device has the configuration that it was opened with, and the client of its link. -/
theorem acquire_client (h : Device.acquire config mixer card link = .ok d) :
    d.config = config ∧ (ModemClient.acquire link config.volumeSteps).1 = .ok d.modem := by
  unfold Device.acquire at h
  simp only at h
  split at h
  next => cases h
  next modem link' hclient =>
    obtain rfl := Except.ok.inj h
    exact ⟨rfl, by rw [hclient]⟩

omit [PcmDriver σ] in
/-- A careful run starts in line with the default facts. -/
theorem settled_acquire (h : Device.acquire config mixer card link = .ok d) :
    d.Settled [] d.now := by
  obtain ⟨hrouting, hline, hcodec⟩ := acquire_spec h
  have hnow : ∀ p, d.now p = ⟨.normal, .speaker ∪ .builtinMic, false⟩ := by
    intro p
    unfold now facts
    rw [hrouting, hline]
    rfl
  have hnone : ∀ p, ∀ t ∈ (Reconciler.ofPath p).rows, t.rule.once = false →
      t.rule.desired ⟨.normal, .speaker ∪ .builtinMic, false⟩ = false := by
    intro p t ht hsteady
    obtain ⟨rule, hrule, rfl⟩ := List.mem_map.1 ht
    exact not_desired_idle (Path.mem_tables hrule) hsteady (by decide) rfl
  refine ⟨⟨fun p i hi => ?_, ?_⟩, fun p i hi => ?_, fun p => ?_, fun p => .refl ..⟩
  · rw [hline] at hi
    cases hi
  · rw [hrouting]
    simp
  · rw [hline] at hi
    cases hi
  · rw [hcodec, Codec.fresh, Codec.run_resets, hnow]
    cases p
    · exact Reconciler.inLine_reset _ _ (hnone .output)
    · exact Reconciler.inLine_reset _ _ (hnone .input)

omit [PcmDriver σ] in
/-- On the mixer made for the tables, both reconcilers start with a right memory. -/
theorem sound_acquire (h : Device.acquire config .ofTables card link = .ok d) : d.codec.Sound := by
  rw [(acquire_spec h).2.2]
  exact Codec.sound_reset rfl

/-- Their memory stays right in every run. -/
theorem sound_play (h : Device.acquire config .ofTables card link = .ok d)
    (events : List (Event σ μ)) :
    (d.play events).codec.Sound := (sound_acquire h).of_reaches (d.reaches_play events)

end

end Device

end HandsetAudio
