import HandsetAudio.Modem.Client
import HandsetAudio.Modem.Recorder

/-!
# Requests one after the other

What a device has to say to its modem in one go is a list of requests, sent one by one
(`ModemClient.sendAll`). With a modem that takes every request each of them arrives
(`TakesAll.sendAll`). Of a recorder the whole record is known:

> `sendAll_accepting`: it grows by the requests in order, after one entry for the
> connection if there was none before.
-/

namespace HandsetAudio

namespace ModemClient

variable {μ : Type} [ModemLink μ]

/-- The client after requests that are sent one after the other. -/
def sendAll (c : ModemClient μ) (rs : List ModemRequest) : ModemClient μ :=
  rs.foldl (fun c r => (c.send r).2) c

@[simp] theorem sendAll_nil (c : ModemClient μ) : c.sendAll [] = c := rfl

@[simp] theorem sendAll_cons (c : ModemClient μ) (r : ModemRequest) (rs : List ModemRequest) :
    c.sendAll (r :: rs) = (c.send r).2.sendAll rs := rfl

theorem sendAll_append (c : ModemClient μ) (rs rs' : List ModemRequest) :
    c.sendAll (rs ++ rs') = (c.sendAll rs).sendAll rs' := List.foldl_append

/-- A client knows as many levels as it was opened with. -/
theorem volumeSteps_acquire {link : μ} {steps : UInt32} {c : ModemClient μ}
    (h : (acquire link steps).1 = .ok c) : c.volumeSteps = steps := by
  unfold acquire at h
  split at h
  next => cases h
  next => rw [← Except.ok.inj h]

@[simp] theorem volumeSteps_send (c : ModemClient μ) (r : ModemRequest) :
    (c.send r).2.volumeSteps = c.volumeSteps := by
  have hensured : c.ensureConnected.2.volumeSteps = c.volumeSteps := by
    unfold ensureConnected
    split <;> rfl
  unfold send
  rcases hresult : c.ensureConnected with ⟨e | u, c'⟩
  · rw [hresult] at hensured
    exact hensured
  · rw [hresult] at hensured
    simp only
    split <;> exact hensured

@[simp] theorem volumeSteps_sendAll (c : ModemClient μ) (rs : List ModemRequest) :
    (c.sendAll rs).volumeSteps = c.volumeSteps := by
  induction rs generalizing c with
  | nil => rfl
  | cons r rs ih => rw [sendAll_cons, ih, volumeSteps_send]

end ModemClient

/-! ## Modems that take everything -/

/-- Modems in a `Willing` state can be connected and take every request; `taken` tells which
ones they took, oldest first. -/
structure TakesAll {μ : Type} [ModemLink μ] (Willing : μ → Prop)
    (taken : μ → List ModemRequest) : Prop where
  connect : ∀ m, Willing m → ∃ m', ModemLink.connect m = (.ok (), m') ∧ Willing m' ∧
    taken m' = taken m
  request : ∀ m r, Willing m → ∃ m', ModemLink.request r m = (.ok (), m') ∧ Willing m' ∧
    taken m' = taken m ++ [r]

namespace TakesAll

variable {μ : Type} [ModemLink μ] {Willing : μ → Prop} {taken : μ → List ModemRequest}

/-- A willing modem takes a request, and stays willing. -/
theorem send (h : TakesAll Willing taken) {c : ModemClient μ} (hc : Willing c.link)
    (r : ModemRequest) :
    Willing (c.send r).2.link ∧ taken (c.send r).2.link = taken c.link ++ [r] := by
  have hensured : ∃ m, c.ensureConnected = (.ok (), { c with link := m }) ∧ Willing m ∧
      taken m = taken c.link := by
    unfold ModemClient.ensureConnected
    cases c.isConnected with
    | true => exact ⟨c.link, rfl, hc, rfl⟩
    | false =>
      obtain ⟨m, hm, hwilling, hsame⟩ := h.connect c.link hc
      exact ⟨m, by simp [hm], hwilling, hsame⟩
  obtain ⟨m, hm, hwilling, hsame⟩ := hensured
  obtain ⟨m', hm', hwilling', htaken⟩ := h.request m r hwilling
  have hsend : (c.send r).2.link = m' := by simp [ModemClient.send, hm, hm']
  rw [hsend]
  exact ⟨hwilling', by rw [htaken, hsame]⟩

/-- Requests to a modem that takes everything. -/
theorem sendAll (h : TakesAll Willing taken) {c : ModemClient μ} (hc : Willing c.link)
    (rs : List ModemRequest) :
    Willing (c.sendAll rs).link ∧ taken (c.sendAll rs).link = taken c.link ++ rs := by
  induction rs generalizing c with
  | nil => exact ⟨hc, (List.append_nil _).symm⟩
  | cons r rs ih =>
    obtain ⟨hwilling, hfirst⟩ := h.send hc r
    obtain ⟨hwilling', hrest⟩ := ih hwilling
    rw [ModemClient.sendAll_cons]
    refine ⟨hwilling', ?_⟩
    rw [hrest, hfirst, List.append_assoc, List.singleton_append]

end TakesAll

/-- The requests among the events of a modem, in order. -/
def ModemEvent.requests (events : List ModemEvent) : List ModemRequest :=
  events.filterMap fun
    | .request r => some r
    | _ => none

@[simp] theorem ModemEvent.requests_append (events events' : List ModemEvent) :
    requests (events ++ events') = requests events ++ requests events' := List.filterMap_append

/-- The path in a request. -/
def ModemRequest.path? : ModemRequest → Option CallPath
  | .path p => some p
  | _ => none

/-- The path that was asked for last. -/
def lastPath? (rs : List ModemRequest) : Option CallPath :=
  (rs.filterMap ModemRequest.path?).getLast?

/-- The path asked for last is the one of the later requests, if they ask for one. -/
@[simp] theorem lastPath?_append (rs rs' : List ModemRequest) :
    lastPath? (rs ++ rs') = (lastPath? rs').or (lastPath? rs) := by
  rw [lastPath?, List.filterMap_append, List.getLast?_append]
  rfl

namespace FlakyModem

/-- The script of the modem holds no failure. -/
structure Reliable (m : FlakyModem) : Prop where
  connects : ∀ b ∈ m.connects, b = true
  requests : ∀ b ∈ m.requests, b = true

theorem headD_true {script : List Bool} (h : ∀ b ∈ script, b = true) :
    script.headD true = true := by
  cases script with
  | nil => rfl
  | cons b _ => exact h b List.mem_cons_self

/-- A reliable modem takes everything, even if it drops the connection after each request. -/
theorem takesAll : TakesAll Reliable fun m => ModemEvent.requests m.events where
  connect m h := by
    have hsuccess := headD_true h.connects
    simp only [ModemLink.connect, hsuccess, if_pos]
    exact ⟨_, rfl, ⟨fun b hb => h.connects b (List.mem_of_mem_tail hb), h.requests⟩,
      by simp [record, ModemEvent.requests]⟩
  request m r h := by
    have hsuccess := headD_true h.requests
    simp only [ModemLink.request, hsuccess, if_pos]
    exact ⟨_, rfl, ⟨h.connects, fun b hb => h.requests b (List.mem_of_mem_tail hb)⟩,
      by simp [record, ModemEvent.requests]⟩

end FlakyModem

/-! ## The record of a modem that takes everything -/

namespace ModemRecorder

/-- The modem lets itself be connected and takes every request. -/
structure Accepting (m : ModemRecorder) : Prop where
  connects : m.refusesConnect = false
  takes : m.refusesRequests = false

theorem takesAll : TakesAll Accepting fun m => ModemEvent.requests m.events where
  connect m h :=
    ⟨{ m with connected := true }.record .connected, by simp [ModemLink.connect, h.connects],
      ⟨h.connects, h.takes⟩, by simp [record, ModemEvent.requests]⟩
  request m r h :=
    ⟨m.record (.request r), by simp [ModemLink.request, h.takes], ⟨h.connects, h.takes⟩,
      by simp [record, ModemEvent.requests]⟩

/-- What requests leave in the record: the connection if there was none, and themselves. -/
def heard (m : ModemRecorder) : List ModemRequest → List ModemEvent
  | [] => []
  | r :: rs => (if m.connected then [] else [.connected]) ++ (r :: rs).map .request

/-- The modem after it heard requests. -/
def hear (m : ModemRecorder) (rs : List ModemRequest) : ModemRecorder :=
  { m with connected := m.connected || !rs.isEmpty, events := m.events ++ m.heard rs }

theorem Accepting.hear {m : ModemRecorder} (h : m.Accepting) (rs : List ModemRequest) :
    (m.hear rs).Accepting := ⟨h.connects, h.takes⟩

theorem hear_nil (m : ModemRecorder) : m.hear [] = m := by
  simp [hear, heard]

theorem hear_cons (m : ModemRecorder) (r : ModemRequest) (rs : List ModemRequest) :
    (m.hear [r]).hear rs = m.hear (r :: rs) := by
  cases rs <;> simp [hear, heard]

end ModemRecorder

namespace ModemClient

/-- A request to a modem that takes everything. -/
theorem send_accepting {c : ModemClient ModemRecorder} (h : c.link.Accepting) (r : ModemRequest) :
    (c.send r).2 = { c with link := c.link.hear [r] } := by
  obtain ⟨link, steps⟩ := c
  obtain ⟨refusesOpen, refusesConnect, refusesRequests, connected, events⟩ := link
  obtain ⟨hconnects, htakes⟩ := h
  obtain rfl : refusesConnect = false := hconnects
  obtain rfl : refusesRequests = false := htakes
  -- with or without a connection
  cases connected with
  | true => rfl
  | false =>
    have hrecord : (events ++ [ModemEvent.connected]) ++ [.request r] =
        events ++ ([.connected] ++ [.request r]) := List.append_assoc ..
    show ModemClient.mk (ModemRecorder.mk _ _ _ _ ((events ++ [ModemEvent.connected]) ++ _)) _ = _
    rw [hrecord]
    rfl

/-- Requests to a modem that takes everything. -/
theorem sendAll_accepting {c : ModemClient ModemRecorder} (h : c.link.Accepting)
    (rs : List ModemRequest) : c.sendAll rs = { c with link := c.link.hear rs } := by
  induction rs generalizing c with
  | nil => rw [sendAll_nil, ModemRecorder.hear_nil]
  | cons r rs ih =>
    have hfirst := send_accepting h r
    rw [sendAll_cons, hfirst, ih (h.hear [r]), ModemRecorder.hear_cons]

end ModemClient

end HandsetAudio
