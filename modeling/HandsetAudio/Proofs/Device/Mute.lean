import HandsetAudio.Proofs.Device.Captures
import HandsetAudio.Proofs.Device.Containment
import HandsetAudio.Proofs.Device.RoutingFacts

/-!
# A muted microphone disturbs nothing

The flag of the microphone is what it was set to last (`micMute_play`). Muting is done to the bytes
of a read, after the transfer. Nothing else takes notice of it: what was captured meanwhile is taken
from the card and converted as if the microphone were on. Main statement:

> `mute_unnoticed`: two runs that differ in what they set the flag of the microphone to, and in
> nothing else, lead to the same device but for that flag. Reads succeed and fail alike and give
> as many bytes as asked for, all of them zero where the microphone is muted.
-/

namespace HandsetAudio

namespace Periphery

variable {μ : Type}

/-- Peripheries that differ in the flag of the microphone at most. -/
structure SameButMute (s s' : Periphery μ) : Prop where
  codec : s'.codec = s.codec
  modem : s'.modem = s.modem
  notices : s'.notices = s.notices

theorem kept_sameButMute [ModemLink μ] :
    Kept (fun _ _ => True) Eq (SameButMute : Periphery μ → Periphery μ → Prop) where
  volumeSteps h := by rw [h.modem]
  converge h p facts := by
    have hcodec := h.codec
    exact ⟨by simp only [converge, hcodec], h.modem, by simp only [converge, hcodec, h.notices]⟩
  send h r := by
    have hmodem := h.modem
    exact ⟨h.codec, by simp only [send, hmodem], by simp only [send, hmodem, h.notices]⟩
  note h line := ⟨h.codec, h.modem, by simp only [note, h.notices]⟩
  mute h _ _ _ := ⟨h.codec, h.modem, h.notices⟩
  relink h _ _ hchange := ⟨h.codec, by simp only [relink, h.modem, hchange], h.notices⟩

end Periphery

/-- Some bytes that a microphone lets through if it is on. -/
theorem audible_of_muted {muted : Bool} (h : muted = true) (length : Nat) (bytes : List UInt8) :
    audible muted length bytes = List.replicate length 0 := by
  rw [h]
  rfl

theorem audible_of_not_muted {muted : Bool} (h : muted = false) (length : Nat)
    (bytes : List UInt8) : audible muted length bytes = bytes := by
  rw [h]
  rfl

/-- What an operation sets the flag of the microphone to. -/
def Operation.mute? : Operation → Option Bool
  | .setMicMute on => some on
  | _ => none

namespace Routing

variable (r : Routing)

@[simp] theorem micMute_route (p : Path) (devices : DeviceSet) :
    (r.route p devices).micMute = r.micMute := by
  unfold route
  split <;> rfl

@[simp] theorem micMute_select (m : Mode) : (r.select m).micMute = r.micMute := by
  unfold select
  split
  next => rfl
  next =>
    split
    next => split <;> rfl
    next => rfl

/-- An operation sets the flag or leaves it as it is. -/
theorem micMute_apply (op : Operation) : (r.apply op).micMute = op.mute?.getD r.micMute := by
  cases op with
  | routeOutput devices => exact r.micMute_route .output devices
  | setOutputParameters i text =>
    simp only [apply]
    cases Device.routedDevices? text with
    | none => rfl
    | some devices => exact r.micMute_route .output devices
  | setInputParameters i text =>
    simp only [apply]
    cases Device.routedDevices? text with
    | none => rfl
    | some devices => exact r.micMute_route .input devices
  | setVoiceVolume v =>
    simp only [apply]
    split <;> rfl
  | setMode code =>
    simp only [apply]
    cases Mode.ofCode? code with
    | none => rfl
    | some m => exact r.micMute_select m
  | setParameters text =>
    simp only [apply]
    cases (Params.parse text).get? Params.nrecKey <;> rfl
  | _ => rfl

end Routing

namespace Device

variable {σ μ : Type}

/-- What an event sets the flag of the microphone to. -/
def Event.mute? : Event σ μ → Option Bool
  | .operation op => op.mute?
  | _ => none

/-- Twins with the same codec, modem and report are the same device but for the flag. -/
theorem Twins.eq_setMicMute {d d' : Device σ μ} (h : Twins Periphery.SameButMute d d') :
    d' = d.setMicMute d'.routing.micMute := by
  have hback : ∀ r : Routing, r = { r.unmuted with micMute := r.micMute } := fun _ => rfl
  have hrouting : d'.routing = { d.routing with micMute := d'.routing.micMute } :=
    (hback d'.routing).trans (by rw [h.routing]; rfl)
  obtain ⟨hcodec, hmodem, hnotices⟩ := h.periphery
  obtain ⟨hmixer, houtputPath, hinputPath⟩ := Codec.mk.inj hcodec
  cases d
  cases d'
  simp only [setMicMute, Device.mk.injEq]
  exact ⟨h.config, hrouting, hmixer, houtputPath, hinputPath, h.card, hmodem, h.loop, h.outputs,
    h.inputs, h.lastOutput, h.lastInput, hnotices⟩

theorem setMicMute_self (d : Device σ μ) : d.setMicMute d.routing.micMute = d := rfl

/-- A device is its own twin. -/
theorem twins_self (d : Device σ μ) : Twins Periphery.SameButMute d d :=
  ⟨rfl, rfl, rfl, rfl, rfl, rfl, rfl, rfl, ⟨rfl, rfl, rfl⟩⟩

section

variable [PcmDriver σ] [ModemLink μ]

theorem micMute_step (d : Device σ μ) (op : Operation) :
    (d.step op).2.routing.micMute = op.mute?.getD d.routing.micMute := by
  rw [routing_step]
  split
  next => exact d.routing.micMute_apply op
  next hunused =>
    -- an operation on a stream does not set it
    cases op with
    | setMicMute on => exact absurd rfl hunused
    | _ => rfl

/-- The flag of the microphone is what it was set to last. -/
theorem micMute_play (d : Device σ μ) (events : List (Event σ μ)) :
    (d.play events).routing.micMute =
      (events.filterMap Event.mute?).getLast?.getD d.routing.micMute :=
  play_lastSet Routing.micMute (fun d e => by
    cases e with
    | operation op => exact d.micMute_step op
    | card | modem => rfl) d events

end

variable [PcmDriver σ] [FillsReads σ] [ModemLink μ]

/-- **Mute**: two runs that differ in the flags for the microphone only lead to the same device
but for the flag, which is what each of them set it to last. From there, operations that do not
ask for the microphone get the same answer. Reads fail alike and give as many bytes as asked for,
zeros where the microphone is muted and the same bytes where it is on in both. -/
theorem mute_unnoticed {config : Config} {mixer : Mixer} {card : σ} {link : μ} {d₀ : Device σ μ}
    (hopen : Device.acquire config mixer card link = .ok d₀) {events events' : List (Event σ μ)}
    (hevents : List.Forall₂ (Event.Matches (fun _ _ => True) Eq) events events') :
    let d := d₀.play events
    let d' := d₀.play events'
    d' = d.setMicMute d'.routing.micMute ∧
      d.routing.micMute = (events.filterMap Event.mute?).getLast?.getD false ∧
      d'.routing.micMute = (events'.filterMap Event.mute?).getLast?.getD false ∧
      (∀ op, op ≠ .micMute → (∀ i length, op ≠ .read i length) →
        (d'.step op).1 = (d.step op).1) ∧
      ∀ i length,
        (∃ e, (d.step (.read i length)).1 = .error e ∧
          (d'.step (.read i length)).1 = .error e) ∨
        ∃ bytes bytes', (d.step (.read i length)).1 = .ok (.captured bytes) ∧
          (d'.step (.read i length)).1 = .ok (.captured bytes') ∧
          bytes.length = length ∧ bytes'.length = length ∧
          (d.routing.micMute = true → bytes = List.replicate length 0) ∧
          (d'.routing.micMute = true → bytes' = List.replicate length 0) ∧
          (d.routing.micMute = false → d'.routing.micMute = false → bytes' = bytes) := by
  intro d d'
  have htwins : Twins Periphery.SameButMute d d' :=
    (twins_self d₀).play Periphery.kept_sameButMute hevents
  have hdefault : d₀.routing.micMute = false := congrArg Routing.micMute (acquire_spec hopen).1
  have hflag := d₀.micMute_play events
  have hflag' := d₀.micMute_play events'
  rw [hdefault] at hflag hflag'
  refine ⟨htwins.eq_setMicMute, hflag, hflag', fun op hquery hread => ?_, fun i length => ?_⟩
  · obtain ⟨reply, hanswer, hanswer', -⟩ :=
      htwins.step Periphery.kept_sameButMute (.refl (fun _ => trivial) op)
    have hheard : ∀ muted, op.heard muted = id := by
      intro muted
      cases op with
      | micMute => exact absurd rfl hquery
      | read i length => exact absurd rfl (hread i length)
      | _ => rfl
    rw [hanswer, hanswer', hheard, hheard]
  · obtain ⟨taken, hanswer, hanswer', -⟩ := htwins.readInput Periphery.kept_sameButMute i length
    rw [step_read_fst, step_read_fst, hanswer, hanswer']
    cases taken with
    | error e => exact .inl ⟨e, rfl, rfl⟩
    | ok bytes =>
      exact .inr ⟨_, _, rfl, rfl, length_readInput hopen events hanswer,
        length_readInput hopen events' hanswer', fun h => audible_of_muted h length bytes,
        fun h => audible_of_muted h length bytes, fun h h' => by
          rw [audible_of_not_muted h, audible_of_not_muted h']⟩

/-- Of four frames a muted read takes two, and gives silence. To the read after it, with the
microphone on again, that makes no difference. -/
theorem mute_unnoticed_between_reads :
    let start : List (Event SoftCard ModemRecorder) := [
      .operation (.openInput .builtinMic ⟨44100, 1⟩), .operation (.read 0 4),
      .card fun c => (c.feed .hifiCapture [1, 2, 3, 4]).2]
    let muting := start ++ [.operation (.setMicMute true)]
    let on := start ++ [.operation (.setMicMute false)]
    let later : List (Event SoftCard ModemRecorder) :=
      [.operation (.read 0 4), .operation (.setMicMute false)]
    (inSoftware.play muting).routing.micMute = true ∧
      (inSoftware.play on).routing.micMute = false ∧
      ((inSoftware.play muting).step (.read 0 4)).1.toOption = some (.captured [0, 0, 0, 0]) ∧
      ((inSoftware.play on).step (.read 0 4)).1.toOption = some (.captured [1, 0, 2, 0]) ∧
      inSoftware.play (muting ++ later) = inSoftware.play (on ++ later) ∧
      ((inSoftware.play (muting ++ later)).step (.read 0 4)).1.toOption =
        some (.captured [3, 0, 4, 0]) := by
  intro start muting on later
  have hop : ∀ op, Event.Matches (σ := SoftCard) (μ := ModemRecorder) (fun _ _ => True) Eq
      (.operation op) (.operation op) := fun op => .operation (.refl (fun _ => trivial) op)
  have hevents : List.Forall₂ (Event.Matches (fun _ _ => True) Eq) on muting :=
    .cons (hop _) (.cons (hop _) (.cons (.card _) (.cons (.operation (.mute trivial)) .nil)))
  have hlater : List.Forall₂ (Event.Matches (fun _ _ => True) Eq) (on ++ later) (muting ++ later) :=
    List.rel_append hevents (.cons (hop _) (.cons (hop _) .nil))
  -- while the microphone is muted in one of the runs
  obtain ⟨-, hon, hmuted, -, hread⟩ := mute_unnoticed acquire_inSoftware hevents
  have hheard : ((inSoftware.play on).step (.read 0 4)).1.toOption =
      some (.captured [1, 0, 2, 0]) := by decide +kernel
  have hsilent : ((inSoftware.play muting).step (.read 0 4)).1.toOption =
      some (.captured [0, 0, 0, 0]) := by
    rcases hread 0 4 with ⟨e, herror, -⟩ | ⟨bytes, bytes', -, hok', -, -, -, hzero, -⟩
    · rw [herror] at hheard
      cases hheard
    · rw [hok', hzero hmuted]
      rfl
  -- and when it is on again
  obtain ⟨hsame, hon', hon'', -, hread'⟩ := mute_unnoticed acquire_inSoftware hlater
  have hbytes : ((inSoftware.play (on ++ later)).step (.read 0 4)).1.toOption =
      some (.captured [3, 0, 4, 0]) := by decide +kernel
  have hequal : ((inSoftware.play (muting ++ later)).step (.read 0 4)).1.toOption =
      some (.captured [3, 0, 4, 0]) := by
    rcases hread' 0 4 with ⟨e, herror, -⟩ | ⟨bytes, bytes', hok, hok', -, -, -, -, hequal⟩
    · rw [herror] at hbytes
      cases hbytes
    · rw [hok', hequal hon' hon'', ← hbytes, hok]
  have hflags : (inSoftware.play (muting ++ later)).routing.micMute =
      (inSoftware.play (on ++ later)).routing.micMute := hon''.trans hon'.symm
  rw [hflags, setMicMute_self] at hsame
  exact ⟨hmuted, hon, hsilent, hheard, hsame, hequal⟩

end Device

end HandsetAudio
