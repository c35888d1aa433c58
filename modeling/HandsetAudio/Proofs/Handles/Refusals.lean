import HandsetAudio.Proofs.Handles.Requests

/-!
# Refused calls

A call answers with a negative code when it is refused. Transfers aside, which may fail half way,
nothing has happened then: everything is looked at before anything is done, and an operation that a
device refuses does nothing to it.

> `step_refused`: a device is as before after an operation that it refused.

> `refused_calls`: in every run a refused call leaves the session as it was and gives out no
> handle, format or flag; a missing place is told first, then a missing device, then the rest.
-/

namespace HandsetAudio

/-! ## Refused operations -/

/-- Moves samples. -/
def Operation.transfers : Operation → Bool
  | .write .. | .read .. => true
  | _ => false

namespace Device

section

variable {σ μ : Type} {d d' : Device σ μ} {e : AudioError}

theorem onOutput_refused {i : StreamId} {f : OutputStream → Except AudioError Reply × Device σ μ}
    (hf : ∀ s, f s = (.error e, d') → d' = d) (h : d.onOutput i f = (.error e, d')) : d' = d := by
  unfold onOutput at h
  split at h
  next => exact (Prod.mk.inj h).2.symm
  next s hs => exact hf s h

theorem onInput_refused {i : StreamId} {f : InputStream → Except AudioError Reply × Device σ μ}
    (hf : ∀ s, f s = (.error e, d') → d' = d) (h : d.onInput i f = (.error e, d')) : d' = d := by
  unfold onInput at h
  split at h
  next => exact (Prod.mk.inj h).2.symm
  next s hs => exact hf s h

theorem setVoiceVolume_refused [ModemLink μ] {volume : Float32}
    (h : d.setVoiceVolume volume = (.error e, d')) : d' = d := by
  unfold setVoiceVolume at h
  split at h
  next => cases h
  next => exact (Prod.mk.inj h).2.symm

theorem openOutput_refused (h : d.openOutput = (.error e, d')) : d' = d := by
  unfold openOutput at h
  split at h
  next => exact (Prod.mk.inj h).2.symm
  next => cases h

theorem openInput_refused {format : StreamFormat} (h : d.openInput format = (.error e, d')) :
    d' = d := by
  unfold openInput at h
  split at h
  next => exact (Prod.mk.inj h).2.symm
  next =>
    split at h
    next => exact (Prod.mk.inj h).2.symm
    next => cases h

/-- **A refused operation does nothing**, unless it moves samples. -/
theorem step_refused [PcmDriver σ] [ModemLink μ] {op : Operation} (hop : op.transfers = false)
    (h : d.step op = (.error e, d')) : d' = d := by
  cases op with
  | check | setMicMute | micMute | setParameters | parameters | captureBuffer | routeOutput =>
    cases h
  | setMode code =>
    simp only [step] at h
    split at h
    next => exact (Prod.mk.inj h).2.symm
    next => cases h
  | setVoiceVolume volume =>
    simp only [step] at h
    split at h
    next => cases h
    next hvolume =>
      obtain ⟨-, rfl⟩ := Prod.mk.inj h
      exact setVoiceVolume_refused hvolume
  | setMasterVolume volume => exact (Prod.mk.inj h).2.symm
  | openOutput devices =>
    simp only [step] at h
    split at h
    next => cases h
    next hopen =>
      obtain ⟨-, rfl⟩ := Prod.mk.inj h
      exact openOutput_refused hopen
  | openInput devices format =>
    simp only [step] at h
    split at h
    next => cases h
    next hopen =>
      obtain ⟨-, rfl⟩ := Prod.mk.inj h
      exact openInput_refused hopen
  | write | read => cases hop
  | closeOutput | dropOutput | standbyOutput | isStandbyOutput | setOutputParameters
  | outputParameters | latency =>
    refine onOutput_refused ?_ h
    rintro s ⟨⟩
  | setOutputVolume | renderPosition =>
    refine onOutput_refused ?_ h
    exact fun s hs => (Prod.mk.inj hs).2.symm
  | closeInput | dropInput | standbyInput | isStandbyInput | setInputParameters
  | inputParameters | setInputGain | lostFrames =>
    refine onInput_refused ?_ h
    rintro s ⟨⟩

end

end Device

/-! ## Refused calls -/

theorem AudioError.errno_neg (e : AudioError) : e.errno < 0 := by
  cases e with
  | pcm e => cases e <;> exact of_decide_eq_true rfl
  | _ => exact of_decide_eq_true rfl

/-- Moves samples. -/
def Call.transfers : Call → Bool
  | .write .. | .read .. => true
  | _ => false

/-- The format where a call may write another one. -/
def Call.format? : Call → Option CallerFormat
  | .openOutput _ _ format _ | .openInput _ _ format _ => format
  | _ => none

/-- The flag where a call may write another one. -/
def Call.flag? : Call → Option Bool
  | .micMute _ place => place
  | _ => none

/-- The call needs a place that was left out. -/
def Call.lacksPlace : Call → Bool
  | .openDevice _ hasPlace => !hasPlace
  | .micMute _ place => place.isNone
  | .openOutput _ _ format hasPlace | .openInput _ _ format hasPlace => format.isNone || !hasPlace
  | _ => false

/-- The call needs a device that was left out. -/
def Call.lacksDevice : Call → Bool
  | .closeDevice device | .setMode device _ | .setVoiceVolume device _ | .setMicMute device _
  | .micMute device _ | .setParameters device _ | .openOutput device _ _ _
  | .openInput device _ _ _ => device.isNone
  | _ => false

namespace Session

variable {s s' : Session}

/-- Nothing has happened, and the caller's format and flag are as they were. -/
structure Declines (s : Session) (format : Option CallerFormat) (flag : Option Bool)
    (served : Result × Session) : Prop where
  session : served.2 = s
  device : served.1.device.held? = none
  stream : served.1.stream.held? = none
  format : served.1.format = format
  flag : served.1.flag = flag

/-- Who puts a device back that has nothing to report has done nothing. -/
theorem put_self {i : DeviceHandle} {d : SoftDevice} (hd : s.devices[i]? = some d)
    (hnotices : d.notices = []) : s.put i d = s := by
  obtain ⟨hlt, rfl⟩ := List.getElem?_eq_some_iff.1 hd
  have hsame : { s.devices[i] with notices := [] } = s.devices[i] := by rw [← hnotices]
  simp only [put, Device.takeNotices, hnotices, hsame, List.set_getElem_self]
  rfl

/-- A code is negative exactly for an error. -/
theorem codeOf_neg_iff {α : Type} {r : Except AudioError α} :
    Result.codeOf r < 0 ↔ ∃ e, r = .error e := by
  cases r with
  | ok => exact ⟨fun h => absurd h (Int.lt_irrefl 0), fun ⟨_, he⟩ => nomatch he⟩
  | error e => exact ⟨fun _ => ⟨e, rfl⟩, fun _ => e.errno_neg⟩

theorem onDevice_refused {α : Type} (hquiet : s.Quiet) {i : Option DeviceHandle}
    {f : SoftDevice → Except AudioError α × SoftDevice}
    (hf : ∀ {d d' e}, f d = (.error e, d') → d' = d) {e : AudioError}
    (h : s.onDevice i f = (.error e, s')) : s' = s := by
  unfold onDevice at h
  split at h
  next => exact (Prod.mk.inj h).2.symm
  next j d hfound =>
    obtain ⟨k, rfl, hk⟩ := Option.bind_eq_some_iff.1 hfound
    obtain ⟨d', hd, hpair⟩ := Option.map_eq_some_iff.1 hk
    obtain ⟨rfl, rfl⟩ := Prod.mk.inj hpair
    obtain ⟨herror, rfl⟩ := Prod.mk.inj h
    have hsame : (f d').2 = d' := hf (Prod.ext herror rfl)
    rw [hsame]
    exact put_self hd (hquiet d' (List.mem_of_getElem? hd))

/-- On fresh parts a device is refused only to callers who have no place for it. -/
theorem serveOpenDevice_refused {environment : List (String × String)} {hasPlace : Bool}
    (h : (s.serveOpenDevice environment hasPlace).1.code < 0) :
    s.Declines none none (s.serveOpenDevice environment hasPlace) := by
  cases hasPlace with
  | false => exact ⟨rfl, rfl, rfl, rfl, rfl⟩
  | true =>
    obtain ⟨d, hd⟩ := exists_freshDevice (Config.ofLookup fun key => environment.lookup key)
    simp only [serveOpenDevice, openDevice, hd, if_true] at h
    exact absurd h (Int.lt_irrefl 0)

/-- Closing a stream is never refused. -/
theorem code_serveCloseStream (s : Session) (device : Option DeviceHandle)
    (stream : Option StreamHandle) (standby forget drop : SoftDevice → StreamId → SoftDevice) :
    (s.serveCloseStream device stream standby forget drop).1.code = 0 := by
  cases stream <;> rfl

section

variable (hquiet : s.Quiet)

include hquiet

theorem perform_refused {i : Option DeviceHandle} {op : Operation} (hop : op.transfers = false)
    {r : Except AudioError Reply} (hr : s.perform i op = (r, s')) (h : Result.codeOf r < 0) :
    s' = s := by
  obtain ⟨e, rfl⟩ := codeOf_neg_iff.1 h
  exact onDevice_refused hquiet (Device.step_refused hop) hr

theorem serveOperation_refused {device : Option DeviceHandle} {op : Operation}
    (hop : op.transfers = false) (h : (s.serveOperation device op).1.code < 0) :
    s.Declines none none (s.serveOperation device op) :=
  ⟨perform_refused hquiet hop rfl h, rfl, rfl, rfl, rfl⟩

theorem serveParameters_refused {device : Option DeviceHandle} {text : Option (List UInt8)}
    {op : String → Operation} (hop : ∀ text, (op text).transfers = false)
    (h : (s.serveParameters device text op).1.code < 0) :
    s.Declines none none (s.serveParameters device text op) := by
  refine ⟨?_, rfl, rfl, rfl, rfl⟩
  obtain ⟨e, he⟩ := codeOf_neg_iff.1 h
  refine onDevice_refused hquiet (fun {d d' e} hd => ?_) (Prod.ext he rfl)
  cases htext : callerText text with
  | error e' =>
    rw [htext] at hd
    exact (Prod.mk.inj hd).2.symm
  | ok text' =>
    rw [htext] at hd
    exact Device.step_refused (hop text') hd

theorem serveOpenStream_refused {device : Option DeviceHandle} {format : Option CallerFormat}
    {hasPlace : Bool} {op : CallerFormat → Except AudioError Operation}
    (hop : ∀ {f o}, op f = .ok o → o.transfers = false)
    (h : (s.serveOpenStream device format hasPlace op).1.code < 0) :
    s.Declines format none (s.serveOpenStream device format hasPlace op) := by
  cases format with
  | none => exact ⟨rfl, rfl, rfl, rfl, rfl⟩
  | some f =>
    cases hasPlace with
    | false => exact ⟨rfl, rfl, rfl, rfl, rfl⟩
    | true =>
      simp only [serveOpenStream] at h ⊢
      generalize hserved : s.onDevice device _ = served at h ⊢
      obtain ⟨r, s'⟩ := served
      cases r with
      | error e =>
        have hsame : s' = s := by
          refine onDevice_refused hquiet (fun {d d' e} hd => ?_) hserved
          cases hf : op f with
          | error e' =>
            rw [hf] at hd
            exact (Prod.mk.inj hd).2.symm
          | ok o =>
            rw [hf] at hd
            exact Device.step_refused (hop hf) hd
        cases device <;> exact ⟨hsame, rfl, rfl, rfl, rfl⟩
      | ok reply =>
        -- whatever is answered, the code is zero
        cases device <;> cases reply <;> exact absurd h (Int.lt_irrefl 0)

theorem serveStream_refused {stream : Option StreamHandle} {op : StreamId → Operation}
    (hop : ∀ i, (op i).transfers = false) (h : (s.serveStream stream op).1.code < 0) :
    s.Declines none none (s.serveStream stream op) := by
  cases stream with
  | none => exact ⟨rfl, rfl, rfl, rfl, rfl⟩
  | some handle => exact serveOperation_refused hquiet (hop handle.stream) h

theorem serveStreamParameters_refused {stream : Option StreamHandle}
    {text : Option (List UInt8)} {op : StreamId → String → Operation}
    (hop : ∀ i text, (op i text).transfers = false)
    (h : (s.serveStreamParameters stream text op).1.code < 0) :
    s.Declines none none (s.serveStreamParameters stream text op) := by
  cases stream with
  | none => exact ⟨rfl, rfl, rfl, rfl, rfl⟩
  | some handle => exact serveParameters_refused hquiet (hop handle.stream) h

theorem micMute_refused {device : Option DeviceHandle} {place : Option Bool}
    (h : (s.serve (.micMute device place)).1.code < 0) :
    s.Declines none place (s.serve (.micMute device place)) := by
  cases place with
  | none => exact ⟨rfl, rfl, rfl, rfl, rfl⟩
  | some before =>
    simp only [serve] at h ⊢
    generalize hserved : s.perform device .micMute = served at h ⊢
    obtain ⟨r, s'⟩ := served
    cases r with
    | error e => exact ⟨perform_refused hquiet rfl hserved h, rfl, rfl, rfl, rfl⟩
    | ok reply => cases reply <;> exact absurd h (Int.lt_irrefl 0)

/-- A refused call does nothing and gives nothing. -/
theorem serve_refused {c : Call} (hc : c.transfers = false) (h : (s.serve c).1.code < 0) :
    s.Declines c.format? c.flag? (s.serve c) := by
  cases c with
  | openDevice => exact serveOpenDevice_refused h
  | closeDevice device =>
    cases device with
    | none => exact ⟨rfl, rfl, rfl, rfl, rfl⟩
    | some i => exact absurd h (Int.lt_irrefl 0)
  | setMode | setVoiceVolume | setMicMute => exact serveOperation_refused hquiet rfl h
  | micMute => exact micMute_refused hquiet h
  | setParameters => exact serveParameters_refused hquiet (fun _ => rfl) h
  | captureBuffer device format =>
    simp only [serve] at h
    split at h
    next => exact absurd h (Int.not_lt.2 (Int.natCast_nonneg _))
    next => exact absurd h (Int.lt_irrefl 0)
  | openOutput =>
    refine serveOpenStream_refused hquiet ?_ h
    rintro f o ⟨⟩
    rfl
  | openInput device devices =>
    refine serveOpenStream_refused hquiet (fun {f o} ho => ?_) h
    cases hformat : f.toStreamFormat with
    | error e =>
      rw [hformat] at ho
      cases ho
    | ok format =>
      rw [hformat] at ho
      obtain rfl := Except.ok.inj ho
      rfl
  | closeOutput | closeInput =>
    rw [serve, code_serveCloseStream] at h
    exact absurd h (Int.lt_irrefl 0)
  | write | read => cases hc
  | standbyOutput | standbyInput => exact serveStream_refused hquiet (fun _ => rfl) h
  | setOutputParameters | setInputParameters =>
    exact serveStreamParameters_refused hquiet (fun _ _ => rfl) h
  | popLog =>
    simp only [serve] at h
    split at h <;> exact absurd h (Int.lt_irrefl 0)

end

/-! ## What is told first -/

/-- A missing place is told before anything else. -/
theorem code_of_lacksPlace (s : Session) {c : Call} (h : c.lacksPlace = true) :
    (s.serve c).1.code = Result.invalidArgument := by
  cases c with
  | openDevice environment hasPlace =>
    cases hasPlace with
    | false => rfl
    | true => cases h
  | micMute device place =>
    cases place with
    | none => rfl
    | some before => cases h
  | openOutput device devices format hasPlace | openInput device devices format hasPlace =>
    cases format with
    | none => rfl
    | some f =>
      cases hasPlace with
      | false => rfl
      | true => cases h
  | _ => cases h

/-- A missing device is told before any text or format is looked at. -/
theorem code_of_lacksDevice (s : Session) {c : Call} (hplace : c.lacksPlace = false)
    (h : c.lacksDevice = true) : (s.serve c).1.code = AudioError.noDevice.errno := by
  cases c with
  | closeDevice device | setMode device | setVoiceVolume device | setMicMute device
  | setParameters device =>
    cases device with
    | none => rfl
    | some i => cases h
  | micMute device place =>
    cases device with
    | none =>
      cases place with
      | none => cases hplace
      | some before => rfl
    | some i => cases h
  | openOutput device devices format hasPlace | openInput device devices format hasPlace =>
    cases device with
    | none =>
      cases format with
      | none => cases hplace
      | some f =>
        cases hasPlace with
        | false => cases hplace
        | true => rfl
    | some i => cases h
  | _ => cases h

/-- **Refused calls**, in every run, whatever callers, tools and keepers of devices did before.
Transfers aside, nothing has happened to any device, stream, mixer, card or modem, nor to the
current device, and nothing was given out. A missing place is told first, then a missing device. -/
theorem refused_calls (requests : List Request) (c : Call) :
    let s := ({} : Session).after requests
    (c.transfers = false → (s.serve c).1.code < 0 → s.Declines c.format? c.flag? (s.serve c)) ∧
      (c.lacksPlace = true → (s.serve c).1.code = Result.invalidArgument) ∧
      (c.lacksPlace = false → c.lacksDevice = true →
        (s.serve c).1.code = AudioError.noDevice.errno) := by
  intro s
  exact ⟨serve_refused (sound_after requests).quiet, code_of_lacksPlace s,
    code_of_lacksDevice s⟩

/-- While a playback stream is open, a second one is refused, and so is a capture stream of an odd
rate; a text that is none is not looked at without a device. -/
theorem refused_calls_while_playing :
    let format : CallerFormat := { rate := 44100, channels := 2, format := CallerFormat.pcm16 }
    let requests : List Request := [.call (.openDevice [] true),
      .call (.openOutput (some 0) .speaker (some format) true),
      .call (.write (some ⟨0, 0⟩) (some [0, 0, 0, 0]))]
    let s := ({} : Session).after requests
    let second : Call := .openOutput (some 0) .earpiece (some format) true
    let odd : Call := .openInput (some 0) .builtinMic (some { format with rate := 9000 }) true
    (s.serve second).1.code = -16 ∧ s.Declines (some format) none (s.serve second) ∧
      (s.serve odd).1.code = -22 ∧
      s.Declines (some { format with rate := 9000 }) none (s.serve odd) ∧
      (s.serve (.setParameters none (some [0xff]))).1.code = -19 := by
  intro format requests s second odd
  have hsecond : (s.serve second).1.code = -16 := by decide +kernel
  have hodd : (s.serve odd).1.code = -22 := by decide +kernel
  refine ⟨hsecond, ?_, hodd, ?_, ?_⟩
  · exact (refused_calls requests second).1 rfl (by rw [hsecond]; decide)
  · exact (refused_calls requests odd).1 rfl (by rw [hodd]; decide)
  · exact (refused_calls requests (.setParameters none (some [0xff]))).2.2 rfl rfl

end Session

end HandsetAudio
