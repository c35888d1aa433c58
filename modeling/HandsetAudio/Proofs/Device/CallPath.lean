import HandsetAudio.Proofs.Device.Paths
import HandsetAudio.Proofs.Device.Turns

/-!
# The path that the modem knows

Entering a call, rerouting playback and changing the noise reduction each tell the modem
its path, and each only under a condition of its own. Together they miss nothing:

> `told_path_in_call`: with a modem that takes every request, the path it was asked for last
> is, in every call, the path of the current devices.
-/

namespace HandsetAudio

/-- A turn that changes the path of a call says so. -/
theorem Turn.tells_path {steps : UInt32} {r r' : Routing} {rs log : List ModemRequest}
    (h : Turn steps r r' rs) (hr : r.inCall = true → lastPath? log = some r.callPath)
    (hcall : r'.inCall = true) : lastPath? (log ++ rs) = some r'.callPath := by
  cases h with
  | still | micMute | mode =>
    rw [List.append_nil]
    exact hr hcall
  | voiceVolume v hrange =>
    -- a volume is no path
    have hnone : lastPath? (if r.mode = .inCall then
        [.volume r.soundCurve (volumeLevel v steps)] else []) = none := by
      split <;> rfl
    rw [lastPath?_append, hnone]
    exact hr hcall
  | nrec b hother =>
    have hwas : r.inCall = true := hcall
    rw [if_pos hwas, lastPath?_append]
    rfl
  | outputs s hsome hother =>
    have hwas : r.inCall = true := hcall
    rw [if_pos hwas, lastPath?_append]
    rfl
  | inputs s hsome hother =>
    rw [List.append_nil, Routing.callPath, DeviceSet.callPath_withInputs]
    exact hr hcall
  | enter hmode hidle =>
    rw [lastPath?_append]
    rfl
  | leave => cases hcall

theorem Talk.tells_path {steps : UInt32} {r r' : Routing} {rs log : List ModemRequest}
    (h : Talk steps r r' rs) (hr : r.inCall = true → lastPath? log = some r.callPath)
    (hcall : r'.inCall = true) : lastPath? (log ++ rs) = some r'.callPath := by
  induction h with
  | nil =>
    rw [List.append_nil]
    exact hr hcall
  | concat htalk hturn ih =>
    rw [← List.append_assoc]
    exact hturn.tells_path ih hcall

namespace Device

/-- **The path in a call**: whatever was done to the device before, the path that a modem
was asked for last is the one in its status. -/
theorem told_path_in_call {σ μ : Type} [PcmDriver σ] [ModemLink μ] {Willing : μ → Prop}
    {taken : μ → List ModemRequest} (htakes : TakesAll Willing taken) {config : Config}
    {mixer : Mixer} {card : σ} {link : μ} {d₀ : Device σ μ}
    (hopen : Device.acquire config mixer card link = .ok d₀) (hwilling : Willing d₀.modem.link)
    {events : List (Event σ μ)} (hspares : ∀ e ∈ events, e.sparesModem = true)
    (hcall : (d₀.play events).routing.inCall = true) :
    lastPath? (taken (d₀.play events).modem.link) = some (d₀.play events).status.callPath := by
  obtain ⟨rs, htalk, hmodem⟩ := d₀.play_talk hspares
  have hidle : d₀.routing.inCall = false := by
    rw [(acquire_spec hopen).1]
  have hbefore : d₀.routing.inCall = true →
      lastPath? (taken d₀.modem.link) = some d₀.routing.callPath := by
    rw [hidle]
    exact fun h => (nomatch h)
  rw [hmodem, (htakes.sendAll hwilling rs).2]
  exact htalk.tells_path hbefore hcall

/-- A call that moves to a Bluetooth headset which leaves noise reduction to the modem, and
is rerouted at the input and played into meanwhile. -/
theorem told_path_of_bluetooth :
    let events : List (Event SoftCard ModemRecorder) := [
      .operation (.openOutput .speaker),
      .operation (.setMode 2),
      .operation (.write 0 [0, 0, 0, 0]),
      .operation (.routeOutput .bluetoothSco),
      .operation (.setParameters "bt_headset_nrec=off"),
      .operation (.routeOutput .builtinMic),
      .operation (.standbyOutput 0)]
    inSoftware.modem.link.Accepting ∧ (∀ e ∈ events, e.sparesModem = true) ∧
      (inSoftware.play events).routing.inCall = true ∧
      lastPath? (ModemEvent.requests (inSoftware.play events).modem.link.events) =
        some .bluetoothNoNr := by
  intro events
  have haccepting : inSoftware.modem.link.Accepting := ⟨rfl, rfl⟩
  have hspares : ∀ e ∈ events, e.sparesModem = true := by decide
  have hcall : (inSoftware.play events).routing.inCall = true := by decide +kernel
  have hpath : (inSoftware.play events).status.callPath = .bluetoothNoNr := by decide +kernel
  have htold := told_path_in_call ModemRecorder.takesAll acquire_inSoftware haccepting hspares hcall
  rw [hpath] at htold
  exact ⟨haccepting, hspares, hcall, htold⟩

end Device

end HandsetAudio
