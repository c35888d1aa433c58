import HandsetAudio.Proofs.Handles.Requests
import HandsetAudio.Proofs.Logs

/-!
# The current device

Tools without a handle act on the device that was opened last, until its handle is closed. Who
that is can be told from what was requested and said (`OpenedLast`), without a look into the
session; the session keeps it twice.

> `current_iff`: what the session keeps is the device that was opened last and is not closed.

> `current_device`: so both ways lead to it, commands act on it alone, without it they do nothing,
> and whoever kept a device finds it as it was when its handle is closed.
-/

namespace HandsetAudio

namespace Session

/-- The handle was given out, none was since, and it was not closed. -/
def OpenedLast (history : List Served) (i : DeviceHandle) : Prop :=
  Since (·.answer.opened? = some i)
    (fun e => e.answer.opened? = none ∧ e.request.closes? ≠ some i) history

variable {s s' : Session} {r : Request} {a : Answer} {i : DeviceHandle}

theorem current_closeDevice (s : Session) (i j : DeviceHandle) :
    (s.closeDevice j).current = some i ↔ s.current = some i ∧ j ≠ i := by
  unfold closeDevice
  split
  next hj =>
    rw [hj]
    refine ⟨fun h => (nomatch h), fun ⟨hi, hne⟩ => absurd (Option.some.inj hi) hne⟩
  next hj =>
    refine ⟨fun hi => ⟨hi, ?_⟩, And.left⟩
    rintro rfl
    exact hj hi

/-- A request, and whose turn it is then. -/
theorem Turn.current_iff (h : s.Turn r a s') (i : DeviceHandle) :
    s'.current = some i ↔
      a.opened? = some i ∨ s.current = some i ∧ a.opened? = none ∧ r.closes? ≠ some i := by
  cases h with
  | opens d log opened kept granted quiet next =>
    rw [opened, next]
    simp
  | closes j opened closed granted next =>
    rw [opened, closed, next, current_closeDevice]
    simp
  | reaches opened kept confined =>
    rw [opened, kept, confined.current]
    simp

/-- The session keeps the device that was opened last and is not closed. -/
theorem current_iff (requests : List Request) (i : DeviceHandle) :
    (({} : Session).after requests).current = some i ↔
      OpenedLast (({} : Session).history requests) i := by
  induction requests using List.reverseRecOn with
  | nil => exact ⟨fun h => (nomatch h), fun h => absurd h not_since_nil⟩
  | append_singleton requests r ih =>
    rw [after_concat, (turn_answer _ r).current_iff, history_concat, OpenedLast, since_concat, ih]
    rfl

/-! ## What leaves the current device alone -/

/-- Who was refused something has opened and closed nothing. -/
theorem Turn.of_refuses (h : s.Turn r a s') (hrefuses : a.Refuses) :
    s'.current = s.current ∧ s'.shared = s.shared := by
  cases h with
  | opens d log opened kept granted quiet next => exact absurd hrefuses granted
  | closes i opened closed granted next => exact absurd hrefuses granted
  | reaches opened kept confined => exact ⟨confined.current, confined.shared⟩

theorem closeDevice_of_ne (h : s.current ≠ some i) : s.closeDevice i = s := if_neg h

theorem devices_closeDevice (s : Session) (i : DeviceHandle) :
    (s.closeDevice i).devices = s.devices := by
  unfold closeDevice
  split <;> rfl

/-! ## Devices without a handle -/

/-- The device is there, and is not the current one. -/
structure Adrift (s : Session) (i : DeviceHandle) : Prop where
  sound : s.Sound
  known : i < s.devices.length
  passed : s.current ≠ some i

/-- Tools do not reach it, and no new device takes its place. -/
theorem Adrift.turn (h : s.Adrift i) (hturn : s.Turn r a s') (habout : r.about? ≠ some i) :
    s'.Adrift i ∧ s'.devices[i]? = s.devices[i]? := by
  have hsound : s'.Sound := h.sound.turn hturn
  cases hturn with
  | opens d log opened kept granted quiet next =>
    subst next
    refine ⟨⟨hsound, ?_, ?_⟩, List.getElem?_append_left h.known⟩
    · exact List.length_append ▸ Nat.lt_succ_of_lt h.known
    · exact fun heq => Nat.ne_of_gt h.known (Option.some.inj heq)
  | closes j opened closed granted next =>
    subst next
    rw [devices_closeDevice]
    refine ⟨⟨hsound, ?_, ?_⟩, rfl⟩
    · rw [devices_closeDevice]
      exact h.known
    · exact fun heq => h.passed ((current_closeDevice s i j).1 heq).1
  | reaches opened kept confined =>
    have hreaches : s.reaches? r ≠ some i := by
      cases r with
      | command c =>
        rw [reaches?, h.sound.slots]
        exact h.passed
      | call | operate | drainLog => exact habout
    refine ⟨⟨hsound, ?_, ?_⟩, confined.others hreaches⟩
    · rw [confined.length]
      exact h.known
    · rw [confined.current]
      exact h.passed

theorem Adrift.after {later : List Request} (h : s.Adrift i)
    (hlater : ∀ r ∈ later, r.about? ≠ some i) : (s.after later).devices[i]? = s.devices[i]? := by
  induction later generalizing s with
  | nil => rfl
  | cons r later ih =>
    obtain ⟨hadrift, hsame⟩ := h.turn (turn_answer s r) (hlater r (List.mem_cons_self ..))
    exact (ih hadrift fun r' hr' => hlater r' (List.mem_cons_of_mem _ hr')).trans hsame

/-! ## The law of the current device -/

/-- What is true of the current device of a session with a history. -/
structure CurrentLaw (s : Session) (history : List Served) : Prop where
  /-- Its handle and the device itself are kept or neither. -/
  slots : s.shared = s.current
  current_iff (i : DeviceHandle) : s.current = some i ↔ OpenedLast history i
  /-- A refused request does not change it. -/
  refused {r : Request} (h : (s.answer r).1.Refuses) :
    (s.answer r).2.current = s.current ∧ (s.answer r).2.shared = s.shared
  /-- Nor does it change when another handle is closed, or none. -/
  others {device : Option DeviceHandle} (h : device = none ∨ s.current ≠ device) :
    (s.serve (.closeDevice device)).2 = s
  /-- Without one, commands are refused and do nothing. -/
  noDevice (h : s.shared = none) (c : Console.Command) : c.perform s = (.error .noDevice, s)
  /-- With one, commands do with it what a client would do, and with no other. -/
  commands {i : DeviceHandle} (h : s.shared = some i) :
    ∃ d, s.devices[i]? = some d ∧ ∀ c : Console.Command,
      let (r, d') := d.step c.operation
      (c.perform s).1 = r.map (fun _ => ()) ∧
        (c.perform s).2.devices[i]? = some { d' with notices := [] } ∧
        Confined (some i) s (c.perform s).2
  /-- Closing a handle does nothing to a device, nor does whoever comes after and does not name
  it. -/
  kept {i : DeviceHandle} (h : i < s.devices.length) {later : List Request}
    (hlater : ∀ r ∈ later, r.about? ≠ some i) :
    let closed := (s.serve (.closeDevice (some i))).2
    closed.devices = s.devices ∧ (closed.after later).devices[i]? = s.devices[i]?

theorem onDevice_some {α : Type} {d : SoftDevice} (h : s.devices[i]? = some d)
    (f : SoftDevice → Except AudioError α × SoftDevice) :
    s.onDevice (some i) f = ((f d).1, s.put i (f d).2) := by
  simp only [onDevice, Option.bind_some, h, Option.map_some]

/-- **The current device**, in every run, whatever callers, tools and keepers of devices do. -/
theorem current_device (requests : List Request) :
    CurrentLaw (({} : Session).after requests) (({} : Session).history requests) := by
  have hsound := sound_after requests
  refine ⟨hsound.slots, current_iff requests, (turn_answer _ _).of_refuses, ?_, ?_, ?_, ?_⟩
  · rintro (_ | i) h
    · rfl
    · exact closeDevice_of_ne (h.resolve_left fun hnone => nomatch hnone)
  · intro hnone c
    rw [c.perform_eq, hnone]
    rfl
  · intro i hi
    have hlt := hsound.known (hsound.slots ▸ hi)
    refine ⟨_, List.getElem?_eq_getElem hlt, fun c => ?_⟩
    have hperform := c.perform_eq (({} : Session).after requests)
    rw [hi, onDevice_some (List.getElem?_eq_getElem hlt)] at hperform
    rw [hperform]
    exact ⟨rfl, List.getElem?_set_self hlt, .put _ i _⟩
  · intro i hlt later hlater closed
    have hdevices : closed.devices = (({} : Session).after requests).devices :=
      devices_closeDevice _ i
    have hadrift : closed.Adrift i := by
      refine ⟨hsound.turn (turn_answer _ (.call (.closeDevice (some i)))), ?_, fun heq => ?_⟩
      · rw [hdevices]
        exact hlt
      · exact ((current_closeDevice _ i i).1 heq).2 rfl
    rw [hadrift.after hlater, hdevices]
    exact ⟨rfl, rfl⟩

/-- Two devices are opened and the first is closed: a tool starts a call on the second. When that
is closed, too, it is still in the call, and the tool has no device. -/
theorem current_device_of_two :
    let opening : Request := .call (.openDevice [] true)
    let requests : List Request :=
      [opening, opening, .call (.closeDevice (some 0)), .command (.setMode .inCall)]
    let s := ({} : Session).after requests
    let closed := (s.serve (.closeDevice (some 1))).2
    s.current = some 1 ∧ OpenedLast (({} : Session).history requests) 1 ∧
      s.devices.map (·.routing.mode) = [.normal, .inCall] ∧
      closed.devices = s.devices ∧
      (Console.Command.setMode .normal).perform closed = (.error .noDevice, closed) := by
  intro opening requests s closed
  have hlaw := current_device requests
  have hcurrent : s.current = some 1 := by decide +kernel
  have hclosed : closed = ({} : Session).after (requests ++ [.call (.closeDevice (some 1))]) := by
    rw [after_concat]
    rfl
  have hnone : closed.shared = none := by decide +kernel
  have hmodes : s.devices.map (·.routing.mode) = [.normal, .inCall] := by decide +kernel
  refine ⟨hcurrent, (hlaw.current_iff 1).1 hcurrent, hmodes, ?_, ?_⟩
  · have hlt : 1 < s.devices.length := by decide +kernel
    have hlater : ∀ r ∈ ([] : List Request), r.about? ≠ some 1 := fun _ h => (nomatch h)
    exact (hlaw.kept hlt hlater).1
  · rw [hclosed] at hnone ⊢
    exact (current_device _).noDevice hnone _

end Session

end HandsetAudio
