import HandsetAudio.Console.Control
import HandsetAudio.Handles.Call
import Mathlib.Data.List.Induction

/-!
# What reaches a session

Callers with handles, tools without, and whoever kept a device for himself: a `Request` is what one
of them wants, an `Answer` what is said to it. Most requests are about one device. The others open
a device or close the handle of one:

> `turn_answer`: all that a request can do to a session.

> `sound_after`: so in every run both ways to the current device lead to the same one, which is
> there, and no device has anything left to report.
-/

namespace HandsetAudio

/-! ## Commands of tools -/

namespace Console

/-- What tools ask of the shared device. -/
inductive Command where
  | setMode (mode : Mode)
  | routeOutput (devices : DeviceSet)
  | setNrec (on : Bool)
  | setVoiceVolume (volume : Float32)

namespace Command

/-- Carries a command out. -/
def perform (s : Session) : Command → Except AudioError Unit × Session
  | .setMode mode => Console.setMode s mode
  | .routeOutput devices => Console.routeOutput s devices
  | .setNrec on => Console.setNrec s on
  | .setVoiceVolume volume => Console.setVoiceVolume s volume

/-- What a client of the device would do. -/
def operation : Command → Operation
  | .setMode mode => .setMode mode.code
  | .routeOutput devices => .routeOutput devices
  | .setNrec on =>
    .setParameters (Params.nrecKey ++ "=" ++ if on then Params.onValue else Params.offValue)
  | .setVoiceVolume volume => .setVoiceVolume volume

/-- A command is the operation on the shared device. -/
theorem perform_eq (c : Command) (s : Session) : c.perform s =
    s.onDevice s.shared fun d =>
      ((d.step c.operation).1.map fun _ => (), (d.step c.operation).2) := by
  cases c with
  | setMode mode =>
    simp only [perform, Console.setMode, onShared, operation, Device.step, Mode.ofCode?_code]
    rfl
  | routeOutput | setNrec => rfl
  | setVoiceVolume volume =>
    refine congrArg (s.onDevice s.shared) (funext fun d => ?_)
    rcases h : d.setVoiceVolume volume with ⟨_ | _, d'⟩
    all_goals
      simp only [operation, Device.step, h]
      exact h

end Command

end Console

/-! ## Requests -/

/-- What reaches a session. -/
inductive Request where
  | call (c : Call)
  | command (c : Console.Command)
  /-- Whoever kept a device does something with it. -/
  | operate (device : DeviceHandle) (op : Operation)
  | drainLog

/-- What is said to a request. -/
inductive Answer where
  | result (r : Result)
  | outcome (r : Except AudioError Unit)
  | reply (r : Except AudioError Reply)
  | lines (lines : List String)

/-- The device that a call does something with. -/
def Call.about? : Call → Option DeviceHandle
  | .setMode device _ | .setVoiceVolume device _ | .setMicMute device _ | .micMute device _
  | .setParameters device _ | .openOutput device _ _ _ | .openInput device _ _ _ => device
  | .closeOutput _ stream | .closeInput _ stream | .write stream _ | .read stream _
  | .standbyOutput stream | .standbyInput stream | .setOutputParameters stream _
  | .setInputParameters stream _ => stream.map (·.device)
  | .openDevice .. | .closeDevice _ | .captureBuffer .. | .popLog => none

/-- A call that neither opens a device nor closes the handle of one. -/
def Call.keepsHandles : Call → Bool
  | .openDevice .. | .closeDevice (some _) => false
  | _ => true

/-- The handle in a place. -/
def Place.held? {α : Type} : Place α → Option α
  | .holds handle => some handle
  | .untouched | .cleared => none

namespace Request

/-- The device that a request names and does something with. -/
def about? : Request → Option DeviceHandle
  | .call c => c.about?
  | .operate device _ => some device
  | .command _ | .drainLog => none

/-- The handle that a request closes. -/
def closes? : Request → Option DeviceHandle
  | .call (.closeDevice device) => device
  | _ => none

end Request

namespace Answer

/-- The handle of a device that was given out. -/
def opened? : Answer → Option DeviceHandle
  | .result r => r.device.held?
  | _ => none

/-- The request was refused. -/
def Refuses : Answer → Prop
  | .result r => r.code < 0
  | .outcome r => ∃ e, r = .error e
  | .reply r => ∃ e, r = .error e
  | .lines _ => False

end Answer

/-- A request with what was said to it. -/
structure Served where
  request : Request
  answer : Answer

namespace Session

/-- Does what is requested. -/
def answer (s : Session) : Request → Answer × Session
  | .call c =>
    let (r, s) := s.serve c
    (.result r, s)
  | .command c =>
    let (r, s) := c.perform s
    (.outcome r, s)
  | .operate device op =>
    let (r, s) := s.perform (some device) op
    (.reply r, s)
  | .drainLog =>
    let (lines, s) := Console.drainLog s
    (.lines lines, s)

/-- The session after several requests. -/
def after (s : Session) (requests : List Request) : Session :=
  requests.foldl (fun s r => (s.answer r).2) s

/-- What was requested and said. -/
def history (s : Session) : List Request → List Served
  | [] => []
  | r :: requests => ⟨r, (s.answer r).1⟩ :: (s.answer r).2.history requests

theorem after_concat (s : Session) (requests : List Request) (r : Request) :
    s.after (requests ++ [r]) = ((s.after requests).answer r).2 := by
  rw [after, List.foldl_append]
  rfl

theorem history_concat (s : Session) (requests : List Request) (r : Request) :
    s.history (requests ++ [r]) =
      s.history requests ++ [⟨r, ((s.after requests).answer r).1⟩] := by
  induction requests generalizing s with
  | nil => rfl
  | cons r' requests ih =>
    rw [List.cons_append, history, ih]
    rfl

/-! ## Requests about a device -/

variable {s s' s'' : Session} {i : Option DeviceHandle}

/-- No device has lines left to report. -/
def Quiet (s : Session) : Prop := ∀ d ∈ s.devices, d.notices = []

/-- At most something was done with the device `i`. -/
structure Confined (i : Option DeviceHandle) (s s' : Session) : Prop where
  current : s'.current = s.current
  shared : s'.shared = s.shared
  length : s'.devices.length = s.devices.length
  others {j : DeviceHandle} (hj : i ≠ some j) : s'.devices[j]? = s.devices[j]?
  quiet (h : s.Quiet) : s'.Quiet

namespace Confined

theorem refl (i : Option DeviceHandle) (s : Session) : Confined i s s :=
  ⟨rfl, rfl, rfl, fun _ => rfl, id⟩

theorem trans (h : Confined i s s') (h' : Confined i s' s'') : Confined i s s'' where
  current := h'.current.trans h.current
  shared := h'.shared.trans h.shared
  length := h'.length.trans h.length
  others hj := (h'.others hj).trans (h.others hj)
  quiet hs := h'.quiet (h.quiet hs)

/-- Lines that come and go are nobody's. -/
theorem log (i : Option DeviceHandle) (s : Session) (log : Log) : Confined i s { s with log } :=
  ⟨rfl, rfl, rfl, fun _ => rfl, id⟩

theorem put (s : Session) (i : DeviceHandle) (d : SoftDevice) :
    Confined (some i) s (s.put i d) where
  current := rfl
  shared := rfl
  length := List.length_set
  others hj := List.getElem?_set_ne fun hij => hj (congrArg some hij)
  quiet h d' hd' := by
    rcases List.mem_or_eq_of_mem_set hd' with hold | rfl
    · exact h d' hold
    · rfl

theorem onDevice {α : Type} (s : Session) (i : Option DeviceHandle)
    (f : SoftDevice → Except AudioError α × SoftDevice) : Confined i s (s.onDevice i f).2 := by
  unfold Session.onDevice
  split
  next => exact .refl i s
  next j d hfound =>
    obtain ⟨k, rfl, hk⟩ := Option.bind_eq_some_iff.1 hfound
    obtain ⟨d', -, hpair⟩ := Option.map_eq_some_iff.1 hk
    obtain rfl := (Prod.mk.inj hpair).1
    exact .put s k _

theorem modifyDevice (s : Session) (i : DeviceHandle) (f : SoftDevice → SoftDevice) :
    Confined (some i) s (s.modifyDevice i f) := .onDevice s (some i) _

end Confined

/-! ## Calls about a device -/

theorem confined_serveOperation (s : Session) (device : Option DeviceHandle) (op : Operation) :
    Confined device s (s.serveOperation device op).2 := .onDevice s device _

theorem confined_serveParameters (s : Session) (device : Option DeviceHandle)
    (text : Option (List UInt8)) (op : String → Operation) :
    Confined device s (s.serveParameters device text op).2 := .onDevice s device _

theorem confined_serveOpenStream (s : Session) (device : Option DeviceHandle)
    (format : Option CallerFormat) (hasPlace : Bool)
    (op : CallerFormat → Except AudioError Operation) :
    Confined device s (s.serveOpenStream device format hasPlace op).2 := by
  unfold serveOpenStream
  split
  next f =>
    generalize hserved : s.onDevice device _ = served
    have hconfined : Confined device s served.2 := hserved ▸ .onDevice s device _
    dsimp only
    split <;> exact hconfined
  next => exact .refl device s

/-- Through whichever device a stream is closed, it is about the device of the stream. -/
theorem confined_serveCloseStream (s : Session) (device : Option DeviceHandle)
    (stream : Option StreamHandle) (standby forget drop : SoftDevice → StreamId → SoftDevice) :
    Confined (stream.map (·.device)) s
      (s.serveCloseStream device stream standby forget drop).2 := by
  cases stream with
  | none => exact .refl none s
  | some h =>
    refine Confined.trans ?_ (.modifyDevice _ h.device (drop · h.stream))
    cases device with
    | none => exact .refl _ s
    | some i =>
      have hstandby := Confined.modifyDevice s h.device (standby · h.stream)
      dsimp only
      split
      next hi => exact hstandby.trans (hi ▸ .modifyDevice _ i (forget · h.stream))
      next => exact hstandby

theorem confined_serveStream (s : Session) (stream : Option StreamHandle)
    (op : StreamId → Operation) :
    Confined (stream.map (·.device)) s (s.serveStream stream op).2 := by
  cases stream with
  | none => exact .refl none s
  | some h => exact confined_serveOperation s (some h.device) (op h.stream)

theorem confined_serveStreamParameters (s : Session) (stream : Option StreamHandle)
    (text : Option (List UInt8)) (op : StreamId → String → Operation) :
    Confined (stream.map (·.device)) s (s.serveStreamParameters stream text op).2 := by
  cases stream with
  | none => exact .refl none s
  | some h => exact confined_serveParameters s (some h.device) text (op h.stream)

theorem confined_of_perform {op : Operation} {r : Except AudioError Reply}
    (h : s.perform i op = (r, s')) : Confined i s s' := by
  have hconfined := Confined.onDevice s i fun d => d.step op
  rw [perform] at h
  rwa [h] at hconfined

theorem confined_serveWrite (s : Session) (stream : Option StreamHandle)
    (bytes : Option (List UInt8)) :
    Confined (stream.map (·.device)) s (s.serveWrite stream bytes).2 := by
  unfold serveWrite
  split
  next h bytes =>
    split
    next hperform => exact confined_of_perform hperform
    next hperform => exact confined_of_perform hperform
  next => exact .refl _ s

theorem confined_serveRead (s : Session) (stream : Option StreamHandle)
    (buffer : Option (List UInt8)) :
    Confined (stream.map (·.device)) s (s.serveRead stream buffer).2 := by
  unfold serveRead
  split
  next h room =>
    split
    next hperform => exact confined_of_perform hperform
    next hperform => exact confined_of_perform hperform
  next => exact .refl _ s

/-- Such a call does something with the device that it is about, if anything. -/
theorem confined_serve (s : Session) {c : Call} (hkeeps : c.keepsHandles = true) :
    Confined c.about? s (s.serve c).2 := by
  cases c with
  | openDevice environment hasPlace => cases hkeeps
  | closeDevice device =>
    cases device with
    | none => exact .refl _ s
    | some i => cases hkeeps
  | setMode device code => exact confined_serveOperation s device (.setMode code)
  | setVoiceVolume device volume => exact confined_serveOperation s device (.setVoiceVolume volume)
  | setMicMute device on => exact confined_serveOperation s device (.setMicMute on)
  | micMute device place =>
    cases place with
    | none => exact .refl _ s
    | some before =>
      simp only [serve]
      split
      next hperform => exact confined_of_perform hperform
      next hperform => exact confined_of_perform hperform
  | setParameters device text => exact confined_serveParameters s device text .setParameters
  | captureBuffer device format =>
    simp only [serve]
    split <;> exact .refl _ s
  | openOutput device devices format hasPlace => exact confined_serveOpenStream s device format ..
  | openInput device devices format hasPlace => exact confined_serveOpenStream s device format ..
  | closeOutput device stream => exact confined_serveCloseStream s device stream ..
  | closeInput device stream => exact confined_serveCloseStream s device stream ..
  | write stream bytes => exact confined_serveWrite s stream bytes
  | read stream buffer => exact confined_serveRead s stream buffer
  | standbyOutput stream => exact confined_serveStream s stream .standbyOutput
  | standbyInput stream => exact confined_serveStream s stream .standbyInput
  | setOutputParameters stream text =>
    exact confined_serveStreamParameters s stream text .setOutputParameters
  | setInputParameters stream text =>
    exact confined_serveStreamParameters s stream text .setInputParameters
  | popLog =>
    simp only [serve]
    split
    next => exact .refl _ s
    next => exact .log _ s _

/-! ## All that a request can do -/

/-- On fresh parts every device can be opened. -/
theorem exists_freshDevice (config : Config) : ∃ d, freshDevice config = .ok d := ⟨_, rfl⟩

/-- Such a call gives out no device. -/
theorem device_serve (s : Session) {c : Call} (hkeeps : c.keepsHandles = true) :
    (s.serve c).1.device = .untouched := by
  cases c with
  | openDevice environment hasPlace => cases hkeeps
  | closeDevice device => cases device <;> rfl
  | setMode | setVoiceVolume | setMicMute | setParameters => rfl
  | micMute device place =>
    cases place with
    | none => rfl
    | some before =>
      simp only [serve]
      split <;> rfl
  | captureBuffer device format =>
    simp only [serve]
    split <;> rfl
  | openOutput | openInput =>
    simp only [serve, serveOpenStream]
    split
    next => split <;> rfl
    next => rfl
  | closeOutput device stream | closeInput device stream => cases stream <;> rfl
  | write =>
    simp only [serve, serveWrite]
    split
    next => split <;> rfl
    next => rfl
  | read =>
    simp only [serve, serveRead]
    split
    next => split <;> rfl
    next => rfl
  | standbyOutput stream | standbyInput stream => cases stream <;> rfl
  | setOutputParameters stream text | setInputParameters stream text => cases stream <;> rfl
  | popLog =>
    simp only [serve]
    split <;> rfl

/-- The device that a request does something with, if one is current. -/
def reaches? (s : Session) : Request → Option DeviceHandle
  | .command _ => s.shared
  | r => r.about?

/-- All that a request can do: open the next device, which is the current one then, close a handle,
or do something with the device that it reaches. -/
inductive Turn (s : Session) (r : Request) (a : Answer) (s' : Session) : Prop
  | opens (d : SoftDevice) (log : Log) (opened : a.opened? = some s.devices.length)
      (kept : r.closes? = none) (granted : ¬a.Refuses) (quiet : d.notices = [])
      (next : s' = { devices := s.devices ++ [d], current := some s.devices.length
                     shared := some s.devices.length, log })
  | closes (i : DeviceHandle) (opened : a.opened? = none) (closed : r.closes? = some i)
      (granted : ¬a.Refuses) (next : s' = s.closeDevice i)
  | reaches (opened : a.opened? = none) (kept : r.closes? = none)
      (confined : Confined (s.reaches? r) s s')

theorem turn_of_keepsHandles (s : Session) {c : Call} (hkeeps : c.keepsHandles = true) :
    s.Turn (.call c) (s.answer (.call c)).1 (s.answer (.call c)).2 := by
  refine .reaches (congrArg Place.held? (device_serve s hkeeps)) ?_ (confined_serve s hkeeps)
  cases c with
  | closeDevice device =>
    cases device with
    | none => rfl
    | some i => cases hkeeps
  | _ => rfl

/-- **All that a request can do to a session.** -/
theorem turn_answer (s : Session) (r : Request) : s.Turn r (s.answer r).1 (s.answer r).2 := by
  cases r with
  | call c =>
    cases c with
    | openDevice environment hasPlace =>
      cases hasPlace with
      | false => exact .reaches rfl rfl (.refl none s)
      | true =>
        obtain ⟨d, hd⟩ := exists_freshDevice (Config.ofLookup fun key => environment.lookup key)
        simp only [answer, serve, serveOpenDevice, openDevice, hd, if_true]
        refine .opens { d with notices := [] } (s.log.append d.notices) rfl rfl
          (Int.lt_irrefl 0) rfl ?_
        simp [put, Device.takeNotices]
    | closeDevice device =>
      cases device with
      | none => exact .reaches rfl rfl (.refl none s)
      | some i => exact .closes i rfl rfl (Int.lt_irrefl 0) rfl
    | _ => exact turn_of_keepsHandles s rfl
  | command c =>
    refine .reaches rfl rfl ?_
    simp only [answer, Console.Command.perform_eq]
    exact .onDevice s s.shared _
  | operate device op => exact .reaches rfl rfl (.onDevice s (some device) _)
  | drainLog => exact .reaches rfl rfl (.log none s _)

/-! ## Runs -/

/-- The current device is one that is there, the same for both who look, and what devices had to
report is in the log. -/
structure Sound (s : Session) : Prop where
  slots : s.shared = s.current
  known {i : DeviceHandle} (h : s.current = some i) : i < s.devices.length
  quiet : s.Quiet

theorem sound_new : ({} : Session).Sound where
  slots := rfl
  known h := nomatch h
  quiet _ h := nomatch h

theorem Sound.turn {r : Request} {a : Answer} (h : s.Sound) (hturn : s.Turn r a s') :
    s'.Sound := by
  cases hturn with
  | opens d log opened kept granted quiet next =>
    subst next
    refine ⟨rfl, fun hi => ?_, fun d' hd' => ?_⟩
    · obtain rfl := Option.some.inj hi
      exact List.length_append ▸ Nat.lt_succ_self _
    · rcases List.mem_append.1 hd' with hold | hnew
      · exact h.quiet d' hold
      · rw [List.mem_singleton.1 hnew, quiet]
  | closes i opened closed granted next =>
    subst next
    unfold closeDevice
    split
    next => exact ⟨rfl, fun hi => (nomatch hi), h.quiet⟩
    next => exact h
  | reaches opened kept confined =>
    refine ⟨by rw [confined.shared, confined.current, h.slots], fun hi => ?_,
      confined.quiet h.quiet⟩
    rw [confined.current] at hi
    rw [confined.length]
    exact h.known hi

/-- Every session that can be reached is sound. -/
theorem sound_after (requests : List Request) : (({} : Session).after requests).Sound := by
  induction requests using List.reverseRecOn with
  | nil => exact sound_new
  | append_singleton requests r ih =>
    rw [after_concat]
    exact ih.turn (turn_answer _ r)

end Session

end HandsetAudio
