import HandsetAudio.Proofs.Device.Paths
import HandsetAudio.Proofs.Device.Turns
import HandsetAudio.Proofs.Modem.Dialogue
import Mathlib.Data.List.Count

/-!
# What a modem records of a device

A device and its modem hold a dialogue: each turn of the device carries it on by its
requests, and a call of the dialogue is up while one of the device is. Main statement:

> `record_of_run`: a modem that takes every request records that it was opened, a dialogue
> with one call for each time that the mode turned to the call mode, and that it was closed.
-/

namespace HandsetAudio

/-- The mode turns to the call mode. -/
def Routing.entersCall (r r' : Routing) : Bool := r.mode ≠ .inCall && r'.mode = .inCall

/-- The mode turns from the call mode. -/
def Routing.leavesCall (r r' : Routing) : Bool := r.mode = .inCall && r'.mode ≠ .inCall

theorem Routing.entersCall_of_mode {r r' : Routing} (h : r'.mode = r.mode) :
    r.entersCall r' = false := by
  simp [entersCall, h]

theorem Routing.leavesCall_of_mode {r r' : Routing} (h : r'.mode = r.mode) :
    r.leavesCall r' = false := by
  simp [leavesCall, h]

namespace Dialogue

/-- The facts of a device and its dialogue with the modem: a call is up in both or in none,
and the mode tells. -/
structure Follows (t : Dialogue) (r : Routing) : Prop where
  current : t.current.isSome = r.inCall
  mode : r.inCall = true ↔ r.mode = .inCall

variable {t : Dialogue} {steps : UInt32} {r r' : Routing} {rs : List ModemRequest}

theorem Follows.exists_call (h : t.Follows r) (hcall : r.inCall = true) :
    ∃ call, t.current = some call :=
  Option.isSome_iff_exists.1 (h.current.trans hcall)

theorem Follows.current_eq_none (h : t.Follows r) (hcall : r.inCall = false) :
    t.current = none :=
  Option.not_isSome_iff_eq_none.1 (by simp [h.current, hcall])

/-- A turn that says nothing outside a call, and at most one thing in it. -/
theorem Follows.adjust (h : t.Follows r) (r' : Routing) (hmode : r'.mode = r.mode)
    (hcall : r'.inCall = r.inCall) (a : Adjustment) {p : Prop} [Decidable p]
    (hp : p → r.inCall = true) :
    ∃ t', t.Goes t' (if p then [a.request] else []) (r.entersCall r').toNat
      (r.leavesCall r').toNat ∧ t'.Follows r' := by
  have hiff : r'.inCall = true ↔ r'.mode = .inCall := by
    rw [hcall, hmode]
    exact h.mode
  rw [Routing.entersCall_of_mode hmode, Routing.leavesCall_of_mode hmode]
  split
  next hsaid =>
    obtain ⟨call, hcurrent⟩ := h.exists_call (hp hsaid)
    refine ⟨t.adjust a, goes_adjust hcurrent a, ?_, hiff⟩
    rw [hcall, ← h.current, hcurrent, Dialogue.adjust, hcurrent]
    rfl
  next => exact ⟨t, .refl t, h.current.trans hcall.symm, hiff⟩

/-- A turn that says nothing and neither begins nor ends a call. -/
theorem Follows.still (h : t.Follows r) (hcall : r'.inCall = r.inCall)
    (hiff : r'.inCall = true ↔ r'.mode = .inCall) :
    ∃ t', t.Goes t' [] (r.entersCall r').toNat (r.leavesCall r').toNat ∧ t'.Follows r' := by
  have hmode : r'.mode = .inCall ↔ r.mode = .inCall := by rw [← hiff, hcall, h.mode]
  have henters : r.entersCall r' = false := by simp [Routing.entersCall, hmode]
  have hleaves : r.leavesCall r' = false := by simp [Routing.leavesCall, hmode]
  rw [henters, hleaves]
  exact ⟨t, .refl t, h.current.trans hcall.symm, hiff⟩

/-- **Each turn** carries the dialogue on. -/
theorem Follows.turn (h : t.Follows r) (hturn : Turn steps r r' rs) :
    ∃ t', t.Goes t' rs (r.entersCall r').toNat (r.leavesCall r').toNat ∧ t'.Follows r' := by
  have hiff := hturn.inCall_iff h.mode
  cases hturn with
  | still => exact h.still rfl hiff
  | micMute => exact h.still rfl hiff
  | inputs => exact h.still rfl hiff
  | mode m => exact h.still rfl hiff
  | voiceVolume v =>
    exact h.adjust { r with voiceVolume := v } rfl rfl
      (.volume r.soundCurve (volumeLevel v steps)) h.mode.2
  | nrec b =>
    exact h.adjust { r with nrec := b } rfl rfl
      (.path ({ r with nrec := b } : Routing).callPath) id
  | outputs s =>
    exact h.adjust { r with devices := r.devices.withOutputs s.outputs } rfl rfl
      (.path ({ r with devices := r.devices.withOutputs s.outputs } : Routing).callPath) id
  | enter hmode hcall =>
    let call : VoiceCall :=
      { path := r.devices.callEntry.callPath r.nrec
        curve := r.devices.callEntry.soundCurve
        level := volumeLevel r.voiceVolume steps }
    refine ⟨t.start call, ?_, rfl, hiff⟩
    have henters : r.entersCall
        { r with mode := .inCall, devices := r.devices.callEntry, inCall := true } = true := by
      simp [Routing.entersCall, hmode]
    have hleaves : r.leavesCall
        { r with mode := .inCall, devices := r.devices.callEntry, inCall := true } = false := by
      simp [Routing.leavesCall]
    rw [henters, hleaves]
    exact goes_start (h.current_eq_none hcall) call
  | leave m hother hmode hcall =>
    obtain ⟨call, hcurrent⟩ := h.exists_call hcall
    refine ⟨t.finish r.callPath, ?_, rfl, hiff⟩
    have henters : r.entersCall { r with mode := m, inCall := false } = false := by
      simp [Routing.entersCall, hmode]
    have hleaves : r.leavesCall { r with mode := m, inCall := false } = true := by
      simp [Routing.leavesCall, hmode, h.mode.1 hcall]
    rw [henters, hleaves]
    exact goes_finish hcurrent _

end Dialogue

namespace Device

variable {σ μ : Type}

section

variable [PcmDriver σ] [ModemLink μ]

/-- How many events of a run change the facts in some way. -/
def count (d : Device σ μ) (change : Routing → Routing → Bool) : List (Event σ μ) → Nat
  | [] => 0
  | e :: events =>
    (change d.routing (d.happen e).routing).toNat + (d.happen e).count change events

/-- **Each run** that leaves the modem alone carries the dialogue on. -/
theorem play_dialogue (d : Device σ μ) {events : List (Event σ μ)}
    (hspares : ∀ e ∈ events, e.sparesModem = true) {t : Dialogue} (h : t.Follows d.routing) :
    ∃ t' rs, (d.play events).modem = d.modem.sendAll rs ∧
      t.Goes t' rs (d.count Routing.entersCall events) (d.count Routing.leavesCall events) ∧
      t'.Follows (d.play events).routing := by
  induction events generalizing d t with
  | nil => exact ⟨t, [], rfl, .refl t, h⟩
  | cons e events ih =>
    obtain ⟨rs, hturn, hmodem⟩ := (d.happen_turns (hspares e List.mem_cons_self)).said
    obtain ⟨t₁, hfirst, hfollows⟩ := h.turn hturn
    obtain ⟨t', rs', hmodem', hrest, hlast⟩ :=
      ih (d.happen e) (fun e' he' => hspares e' (List.mem_cons_of_mem _ he')) hfollows
    refine ⟨t', rs ++ rs', ?_, hfirst.trans hrest, hlast⟩
    rw [ModemClient.sendAll_append, ← hmodem]
    exact hmodem'

end

/-! ## Dropping everything -/

theorem sameCall_foldl {f : Device σ μ → StreamId → Device σ μ}
    (hf : ∀ d i, Device.SameCall d (f d i)) (d : Device σ μ) (is : List StreamId) :
    d.SameCall (is.foldl f d) := by
  induction is generalizing d with
  | nil => exact .refl d
  | cons i is ih => exact (hf d i).trans (ih (f d i))

theorem sameCall_dropStreams [PcmDriver σ] (d : Device σ μ) : d.SameCall d.dropStreams :=
  (sameCall_foldl sameCall_dropOutput d _).trans (sameCall_foldl sameCall_dropInput _ _)

theorem modem_acquire {config : Config} {mixer : Mixer} {card : σ} {d : Device σ ModemRecorder}
    (h : Device.acquire config mixer card {} = .ok d) :
    d.modem.link = { events := [.opened] } := by
  obtain rfl := Except.ok.inj h
  rfl

/-- **The record of a run**: on a modem that takes every request, from its opening until
everything was dropped, there is a dialogue between `opened` and `closed`. Its calls are
those of the device, and the last one has no end if it is still up. -/
theorem record_of_run [PcmDriver σ] {config : Config} {mixer : Mixer} {card : σ}
    {d₀ : Device σ ModemRecorder} (hopen : Device.acquire config mixer card {} = .ok d₀)
    {events : List (Event σ ModemRecorder)} (hspares : ∀ e ∈ events, e.sparesModem = true) :
    let record := (d₀.play events).dropStreams.shutdown.modem.link.events
    ∃ t : Dialogue, record = .opened :: (t.record ++ [.closed]) ∧
      (t.current.isSome = true ↔ (d₀.play events).routing.mode = .inCall) ∧
      t.calls = d₀.count Routing.entersCall events ∧
      t.past.length = d₀.count Routing.leavesCall events ∧
      record.count (.request (.clock .start)) = d₀.count Routing.entersCall events := by
  intro record
  have hlink := modem_acquire hopen
  have hfollows : ({} : Dialogue).Follows d₀.routing := by
    rw [(acquire_spec hopen).1]
    exact ⟨rfl, by decide⟩
  obtain ⟨t, rs, hmodem, hgoes, hlast⟩ := d₀.play_dialogue hspares hfollows
  have hrs : t.requests = rs := hgoes.requests
  have hcalls : t.calls = d₀.count Routing.entersCall events := by
    rw [hgoes.calls]
    exact Nat.zero_add _
  have hpast : t.past.length = d₀.count Routing.leavesCall events := by
    rw [hgoes.past]
    exact Nat.zero_add _
  have hrecord : record = .opened :: (t.record ++ [.closed]) := by
    have haccepting : d₀.modem.link.Accepting := by
      rw [hlink]
      exact ⟨rfl, rfl⟩
    have hheard : (d₀.play events).modem.link.events = .opened :: t.record := by
      rw [hmodem, ModemClient.sendAll_accepting haccepting, hlink, t.record_eq, hrs]
      cases rs <;> rfl
    have hdropped := (d₀.play events).sameCall_dropStreams.modem
    show (d₀.play events).dropStreams.modem.link.events ++ [.closed] = _
    rw [hdropped, hheard]
    rfl
  refine ⟨t, hrecord, ?_, hcalls, hpast, ?_⟩
  · rw [hlast.current]
    exact hlast.mode
  · have hinjective : Function.Injective ModemEvent.request := fun _ _ h => ModemEvent.request.inj h
    have hcount : t.record.count (.request (.clock .start)) = t.calls := by
      rw [t.record_eq, ← t.count_start]
      split
      next hnone => rw [hnone]; rfl
      next =>
        rw [List.count_cons_of_ne (by decide)]
        exact List.count_map_of_injective _ _ hinjective _
    rw [hrecord, List.count_cons_of_ne (by decide), List.count_append, hcount, hcalls]
    rfl

/-- A call that ended, and one in which everything was dropped. -/
theorem record_of_two_calls :
    let events : List (Event SoftCard ModemRecorder) := [
      .operation (.routeOutput .wiredHeadset),
      .operation (.setMode 2),
      .operation (.routeOutput .speaker),
      .operation (.openInput .builtinMic ⟨44100, 1⟩),
      .operation (.setMode 0),
      .operation (.setParameters "bt_headset_nrec=off"),
      .operation (.read 0 4),
      .operation (.setMode 2)]
    let record := (inSoftware.play events).dropStreams.shutdown.modem.link.events
    (∀ e ∈ events, e.sparesModem = true) ∧
      ∃ t : Dialogue, record = .opened :: (t.record ++ [.closed]) ∧ t.current.isSome = true ∧
        t.calls = 2 ∧ t.past.length = 1 ∧ record.count (.request (.clock .start)) = 2 := by
  intro events record
  have hspares : ∀ e ∈ events, e.sparesModem = true := by decide
  have hmode : (inSoftware.play events).routing.mode = .inCall := by decide +kernel
  have henters : inSoftware.count Routing.entersCall events = 2 := by decide +kernel
  have hleaves : inSoftware.count Routing.leavesCall events = 1 := by decide +kernel
  obtain ⟨t, hrecord, hcurrent, hcalls, hpast, hstarts⟩ := record_of_run acquire_inSoftware hspares
  rw [henters] at hcalls hstarts
  rw [hleaves] at hpast
  exact ⟨hspares, t, hrecord, hcurrent.2 hmode, hcalls, hpast, hstarts⟩

end Device

end HandsetAudio
