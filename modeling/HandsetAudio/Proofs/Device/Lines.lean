import HandsetAudio.Proofs.Mixer.Codec
import HandsetAudio.Device.Operation

/-!
# The streams of one direction

A `Line` is what the streams of one direction mean to their path: which of them clients
still hold, which run, and which was opened last and not closed. The path is in use
(`Line.on`) while the stream opened last is held and runs; other streams do not count.
That they never run is the invariant `Line.Sole`, which the operations keep as long as
clients do not use streams that they closed.

> `Follows`: the passes that an operation makes end with the state that its streams end
> in, and an operation without a pass leaves the state as it was.
-/

namespace HandsetAudio

/-- What matters of a stream to its path. -/
structure StreamFlags where
  /-- Whether a client still has it. -/
  held : Bool
  /-- Whether it is out of standby. -/
  running : Bool
  deriving DecidableEq, Repr

/-- What matters of the streams of one direction to their path. -/
structure Line where
  /-- The streams, by number. -/
  streams : List StreamFlags
  /-- The stream that was opened last and not closed. -/
  last : Option StreamId
  deriving DecidableEq, Repr

namespace Line

/-- Whether a client has the stream. -/
def held (l : Line) (i : StreamId) : Bool := (l.streams[i]?).any (·.held)

/-- Whether the stream is out of standby. -/
def running (l : Line) (i : StreamId) : Bool := (l.streams[i]?).any (·.running)

/-- The active stream. -/
def active? (l : Line) : Option StreamId := l.last.filter l.held

/-- Whether the path is in use. -/
def on (l : Line) : Bool := l.active?.any l.running

/-- The streams after one of them left standby or entered it. -/
def mark (l : Line) (i : StreamId) (running : Bool) : Line :=
  { l with streams := l.streams.modify i fun s => { s with running } }

/-- The streams after the active one entered standby. -/
def standby (l : Line) : Line :=
  match l.active? with
  | none => l
  | some i => l.mark i false

/-- The streams after another one was opened. -/
def push (l : Line) : Line :=
  { streams := l.streams ++ [⟨true, false⟩], last := some l.streams.length }

/-- The streams after one of them gave up its place. -/
def forget (l : Line) (i : StreamId) : Line :=
  if l.last = some i then { l with last := none } else l

/-- The streams after a client dropped one of them. -/
def release (l : Line) (i : StreamId) : Line :=
  { l with streams := l.streams.modify i fun _ => ⟨false, false⟩ }

/-- Only the active stream runs. -/
def Sole (l : Line) : Prop := ∀ i, l.running i = true → l.last = some i ∧ l.held i = true

/-- Only streams that a client has run. -/
def Attended (l : Line) : Prop := ∀ i, l.running i = true → l.held i = true

/-- Passes with the flags `ons` suit a change of the streams from `l` to `l'`: the last of
them is for the state at the end, and without any the state does not change. -/
def Follows (l l' : Line) (ons : List Bool) : Prop :=
  match ons.getLast? with
  | some on => l'.on = on
  | none => l'.on = l.on

variable {l : Line} {i : StreamId}

/-! ## Flags after a change -/

@[simp] theorem last_mark (l : Line) (i : StreamId) (b : Bool) : (l.mark i b).last = l.last := rfl

@[simp] theorem last_release (l : Line) (i : StreamId) : (l.release i).last = l.last := rfl

@[simp] theorem held_mark (l : Line) (i : StreamId) (b : Bool) (j : StreamId) :
    (l.mark i b).held j = l.held j := by
  unfold held mark
  rw [List.getElem?_modify]
  cases l.streams[j]? with
  | none => rfl
  | some s => by_cases h : i = j <;> simp [h]

theorem running_mark_self (h : l.held i = true) (b : Bool) : (l.mark i b).running i = b := by
  unfold held at h
  unfold running mark
  cases hs : l.streams[i]? with
  | none => rw [hs] at h; cases h
  | some s => simp [hs]

@[simp] theorem running_mark_false (l : Line) (i : StreamId) :
    (l.mark i false).running i = false := by
  unfold running mark
  cases hs : l.streams[i]? <;> simp [hs]

theorem running_mark_of_ne (l : Line) {j : StreamId} (h : i ≠ j) (b : Bool) :
    (l.mark i b).running j = l.running j := by
  unfold running mark
  rw [List.getElem?_modify_ne _ _ h]

/-- Marking a stream as what it is changes nothing. -/
theorem mark_self (l : Line) (i : StreamId) : l.mark i (l.running i) = l := by
  have hstreams : l.streams.modify i (fun s => { s with running := l.running i }) = l.streams := by
    refine List.ext_getElem? fun j => ?_
    rw [List.getElem?_modify]
    by_cases hij : i = j
    · subst hij
      cases hs : l.streams[i]? <;> simp [running, hs]
    · simp [hij]
  unfold mark
  rw [hstreams]

@[simp] theorem mark_mark (l : Line) (i : StreamId) (b b' : Bool) :
    (l.mark i b).mark i b' = l.mark i b' := by
  unfold mark
  simp only [List.modify_modify_eq]
  rfl

theorem held_release_of_ne (l : Line) {j : StreamId} (h : i ≠ j) :
    (l.release i).held j = l.held j := by
  unfold held release
  rw [List.getElem?_modify_ne _ _ h]

theorem running_release_of_ne (l : Line) {j : StreamId} (h : i ≠ j) :
    (l.release i).running j = l.running j := by
  unfold running release
  rw [List.getElem?_modify_ne _ _ h]

@[simp] theorem held_release_self (l : Line) (i : StreamId) : (l.release i).held i = false := by
  unfold held release
  cases hs : l.streams[i]? <;> simp [hs]

@[simp] theorem running_release_self (l : Line) (i : StreamId) :
    (l.release i).running i = false := by
  unfold running release
  cases hs : l.streams[i]? <;> simp [hs]

@[simp] theorem held_forget (l : Line) (i j : StreamId) : (l.forget i).held j = l.held j := by
  unfold forget
  split <;> rfl

@[simp] theorem running_forget (l : Line) (i j : StreamId) :
    (l.forget i).running j = l.running j := by
  unfold forget
  split <;> rfl

theorem last_forget (l : Line) (i : StreamId) :
    (l.forget i).last = if l.last = some i then none else l.last := by
  unfold forget
  split <;> rfl

theorem held_push (l : Line) (j : StreamId) :
    l.push.held j = (l.held j || decide (j = l.streams.length)) := by
  unfold held push
  rcases Nat.lt_trichotomy j l.streams.length with hlt | rfl | hgt
  · have hne : j ≠ l.streams.length := Nat.ne_of_lt hlt
    rw [List.getElem?_append_left hlt, decide_eq_false hne, Bool.or_false]
  · simp
  · have hne : j ≠ l.streams.length := Nat.ne_of_gt hgt
    rw [List.getElem?_eq_none (by simp; omega), List.getElem?_eq_none (by omega),
      decide_eq_false hne]
    rfl

theorem running_push (l : Line) (j : StreamId) : l.push.running j = l.running j := by
  unfold running push
  rcases Nat.lt_trichotomy j l.streams.length with hlt | rfl | hgt
  · rw [List.getElem?_append_left hlt]
  · simp
  · rw [List.getElem?_eq_none (by simp; omega), List.getElem?_eq_none (by omega)]

/-! ## Whether the path is in use -/

/-- The stream in place decides, while it is held. -/
theorem on_of_last (hlast : l.last = some i) : l.on = (l.held i && l.running i) := by
  unfold on active?
  rw [hlast]
  cases hh : l.held i <;> simp [hh]

theorem on_of_last_none (hlast : l.last = none) : l.on = false := by
  unfold on active?
  rw [hlast]
  rfl

/-- A stream that runs is the one that counts. -/
theorem Sole.on_of_running (h : l.Sole) (hrunning : l.running i = true) : l.on = true := by
  obtain ⟨hlast, hheld⟩ := h i hrunning
  rw [on_of_last hlast, hheld, hrunning]
  rfl

/-- Where nothing runs, the path is idle. -/
theorem on_eq_false (h : ∀ i, l.running i = false) : l.on = false := by
  cases hlast : l.last with
  | none => exact on_of_last_none hlast
  | some i => rw [on_of_last hlast, h i, Bool.and_false]

/-- Where the path is idle, nothing runs. -/
theorem Sole.running_eq_false (h : l.Sole) (hon : l.on = false) (i : StreamId) :
    l.running i = false := by
  cases hrunning : l.running i with
  | false => rfl
  | true => rw [h.on_of_running hrunning] at hon; cases hon

theorem active?_mark (l : Line) (i : StreamId) (b : Bool) : (l.mark i b).active? = l.active? := by
  unfold active?
  rw [last_mark, funext fun j => held_mark l i b j]

theorem active?_eq_some_iff : l.active? = some i ↔ l.last = some i ∧ l.held i = true :=
  Option.filter_eq_some_iff

/-- Giving up a place frees no other one. -/
theorem active?_forget (l : Line) (i : StreamId) {j : StreamId} :
    (l.forget i).active? = some j ↔ l.active? = some j ∧ j ≠ i := by
  rw [active?_eq_some_iff, active?_eq_some_iff, held_forget, last_forget]
  by_cases hlast : l.last = some i
  · rw [if_pos hlast, hlast]
    refine ⟨fun h => (nomatch h.1), fun h => absurd (Option.some.inj h.1.1).symm h.2⟩
  · rw [if_neg hlast]
    refine ⟨fun h => ⟨h, ?_⟩, And.left⟩
    rintro rfl
    exact hlast h.1

/-- Nor does dropping a stream. -/
theorem active?_release (l : Line) (i : StreamId) {j : StreamId} :
    (l.release i).active? = some j ↔ l.active? = some j ∧ j ≠ i := by
  rw [active?_eq_some_iff, active?_eq_some_iff, last_release]
  by_cases hij : i = j
  · subst hij
    simp
  · rw [held_release_of_ne l hij]
    exact ⟨fun h => ⟨h, Ne.symm hij⟩, And.left⟩

/-- A stream that is opened is active. -/
theorem active?_push (l : Line) : l.push.active? = some l.streams.length := by
  rw [active?_eq_some_iff, held_push, decide_eq_true rfl, Bool.or_true]
  exact ⟨rfl, rfl⟩

/-- Standby leaves the active stream active. -/
theorem active?_standby (l : Line) : l.standby.active? = l.active? := by
  unfold standby
  split
  next => rfl
  next i _ => exact active?_mark l i false

theorem running_standby (hactive : l.active? = some i) : l.standby.running i = false := by
  unfold standby
  rw [hactive]
  exact running_mark_false l i

theorem on_standby (l : Line) : l.standby.on = false := by
  unfold on
  rw [active?_standby]
  cases hactive : l.active? with
  | none => rfl
  | some i => exact running_standby hactive

/-! ## What the changes keep -/

theorem Sole.rest (h : l.Sole) (i : StreamId) : (l.mark i false).Sole := by
  intro j hj
  by_cases hij : i = j
  · subst hij
    rw [running_mark_false] at hj
    cases hj
  · rw [running_mark_of_ne l hij] at hj
    rw [last_mark, held_mark]
    exact h j hj

theorem Sole.standby (h : l.Sole) : l.standby.Sole := by
  unfold Line.standby
  split
  next => exact h
  next i _ => exact h.rest i

/-- The stream in place may leave standby. -/
theorem Sole.mark (h : l.Sole) (hlast : l.last = some i) (hheld : l.held i = true) (b : Bool) :
    (l.mark i b).Sole := by
  intro j hj
  by_cases hij : i = j
  · subst hij
    rw [last_mark, held_mark]
    exact ⟨hlast, hheld⟩
  · rw [running_mark_of_ne l hij] at hj
    rw [last_mark, held_mark]
    exact h j hj

/-- A stream in standby may be dropped. -/
theorem Sole.release (h : l.Sole) (i : StreamId) : (l.release i).Sole := by
  intro j hj
  by_cases hij : i = j
  · subst hij
    rw [running_release_self] at hj
    cases hj
  · rw [running_release_of_ne l hij] at hj
    rw [last_release, held_release_of_ne l hij]
    exact h j hj

/-- A stream in standby may give up its place. -/
theorem Sole.forget (h : l.Sole) (hidle : l.running i = false) : (l.forget i).Sole := by
  intro j hj
  rw [running_forget] at hj
  -- the stream that runs is another one, so its place is not the one given up
  have hne : j ≠ i := by
    rintro rfl
    rw [hj] at hidle
    cases hidle
  obtain ⟨hlast, hheld⟩ := h j hj
  rw [held_forget, last_forget, if_neg (by rw [hlast]; simpa using hne)]
  exact ⟨hlast, hheld⟩

/-- A stream may be opened where none is active. -/
theorem Sole.push (h : l.Sole) (hactive : l.active? = none) : l.push.Sole := by
  intro j hj
  rw [running_push] at hj
  obtain ⟨hlast, hheld⟩ := h j hj
  unfold Line.active? at hactive
  rw [hlast, Option.filter_some, if_pos hheld] at hactive
  cases hactive

/-! ## Passes that follow -/

theorem follows_refl (l : Line) : l.Follows l [] := rfl

theorem follows_concat {l l' : Line} {ons : List Bool} {on : Bool} :
    l.Follows l' (ons ++ [on]) ↔ l'.on = on := by
  unfold Follows
  rw [List.getLast?_concat]

/-- Standby ends with the path idle. -/
theorem Sole.follows_rest (h : l.Sole) (i : StreamId) :
    l.Follows (l.mark i false) (if l.running i then [false] else []) := by
  cases hrunning : l.running i with
  | true =>
    have hon : (l.mark i false).on = false := by
      rw [on_of_last (l := l.mark i false) (h i hrunning).1, running_mark_false, Bool.and_false]
    exact hon
  | false =>
    have hsame := mark_self l i
    rw [hrunning] at hsame
    rw [hsame]
    exact follows_refl l

/-- The passes of a transfer: on if the stream was in standby, off if it failed. -/
def transferPasses (running ok : Bool) : List Bool :=
  (if running then [] else [true]) ++ (if ok then [] else [false])

/-- A stream that started and then failed. -/
theorem transferPasses_true_concat (running : Bool) :
    transferPasses running true ++ [false] = transferPasses running false := by
  cases running <;> rfl

/-- A transfer on the stream in place ends with the path in use iff it succeeds. -/
theorem follows_transfer (hlast : l.last = some i) (hheld : l.held i = true) (ok : Bool) :
    l.Follows (l.mark i ok) (transferPasses (l.running i) ok) := by
  have hon : (l.mark i ok).on = ok := by
    rw [on_of_last (l := l.mark i ok) hlast, held_mark, hheld, running_mark_self hheld]
    rfl
  cases ok with
  | false => exact follows_concat.2 hon
  | true =>
    -- a stream that ran before makes no pass
    cases hrunning : l.running i with
    | false => exact hon
    | true =>
      have hsame : l.on = true := by
        rw [on_of_last hlast, hheld, hrunning]
        rfl
      exact hon.trans hsame.symm

/-- Closing a stream ends with the path idle if it was the active one. -/
theorem Sole.follows_close (h : l.Sole) (i : StreamId) :
    l.Follows ((l.mark i false).forget i) (if l.running i then [false] else []) := by
  -- giving up the place changes nothing once the stream is in standby
  have hon : ((l.mark i false).forget i).on = (l.mark i false).on := by
    by_cases hlast : l.last = some i
    · rw [on_of_last_none (by rw [last_forget, last_mark, if_pos hlast]),
        on_of_last (l := l.mark i false) hlast, running_mark_false, Bool.and_false]
    · unfold Line.forget
      rw [last_mark, if_neg hlast]
  have hrest := h.follows_rest i
  unfold Follows at *
  split <;> simp_all

/-- Dropping a stream in standby leaves the path as it is. -/
theorem follows_release (hidle : l.running i = false) : l.Follows (l.release i) [] := by
  show (l.release i).on = l.on
  cases hlast : l.last with
  | none => rw [on_of_last_none hlast, on_of_last_none (l := l.release i) hlast]
  | some j =>
    rw [on_of_last hlast, on_of_last (l := l.release i) hlast]
    by_cases hij : i = j
    · subst hij
      rw [held_release_self, hidle, Bool.and_false]
      rfl
    · rw [held_release_of_ne l hij, running_release_of_ne l hij]

/-- A stream that is opened starts in standby. -/
theorem Sole.follows_push (h : l.Sole) (hactive : l.active? = none) : l.Follows l.push [] := by
  have hoff : l.on = false := by
    unfold on
    rw [hactive]
    rfl
  have hidle : l.push.on = false := on_eq_false fun j => by
    rw [running_push, h.running_eq_false hoff]
  exact hidle.trans hoff.symm

end Line

end HandsetAudio
