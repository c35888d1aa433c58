import HandsetAudio.Proofs.Modem.Requests

/-!
# Dialogues with the modem

A `Dialogue` is a sequence of calls as the modem hears of them: those that ended, and the
one that is up. A `VoiceCall` sends a path, starts the clock, sets a volume, and changes path
and volume afterwards; when it ends, a last path follows. Nothing else can be written as a
dialogue, so that a record which is one (`Dialogue.record`) has no request outside a call.

A dialogue grows when a call begins (`start`), changes (`adjust`) or ends (`finish`).
-/

namespace HandsetAudio

/-- What may change during a call. -/
inductive Adjustment where
  | path (path : CallPath)
  | volume (curve : SoundCurve) (level : Int)
  deriving DecidableEq, Repr

/-- How the modem hears of it. -/
def Adjustment.request : Adjustment → ModemRequest
  | .path p => .path p
  | .volume c v => .volume c v

/-- A call as the modem hears of it. -/
structure VoiceCall where
  path : CallPath
  curve : SoundCurve
  level : Int
  /-- What changed later, in order. -/
  adjustments : List Adjustment := []
  deriving DecidableEq, Repr

/-- The requests of the call while it is up. -/
def VoiceCall.requests (c : VoiceCall) : List ModemRequest :=
  [.path c.path, .clock .start, .volume c.curve c.level] ++ c.adjustments.map Adjustment.request

/-- Calls one after the other. -/
structure Dialogue where
  /-- The calls that ended, each with the path that was sent at its end. -/
  past : List (VoiceCall × CallPath) := []
  /-- The call that is up. -/
  current : Option VoiceCall := none
  deriving DecidableEq, Repr

namespace Dialogue

/-- All requests. -/
def requests (t : Dialogue) : List ModemRequest :=
  t.past.flatMap (fun (call, ending) => call.requests ++ [.path ending]) ++
    t.current.elim [] VoiceCall.requests

/-- What a modem records that took all requests: it was connected if there were any calls. -/
def record (t : Dialogue) : List ModemEvent :=
  if t.past = [] ∧ t.current = none then [] else .connected :: t.requests.map .request

/-- How many calls there were. -/
def calls (t : Dialogue) : Nat := t.past.length + t.current.toList.length

/-- The clock starts once for each call. -/
theorem count_start (t : Dialogue) : t.requests.count (.clock .start) = t.calls := by
  have hadjust : ∀ as : List Adjustment,
      (as.map Adjustment.request).count (.clock .start) = 0 := by
    intro as
    refine List.count_eq_zero.2 fun hmem => ?_
    obtain ⟨a, -, ha⟩ := List.mem_map.1 hmem
    cases a <;> cases ha
  have hcall : ∀ call : VoiceCall, call.requests.count (.clock .start) = 1 := by
    intro call
    rw [VoiceCall.requests, List.count_append, hadjust]
    rfl
  have hpast : ∀ past : List (VoiceCall × CallPath),
      (past.flatMap fun (call, ending) => call.requests ++ [.path ending]).count
        (.clock .start) = past.length := by
    intro past
    induction past with
    | nil => rfl
    | cons c past ih =>
      rw [List.flatMap_cons, List.count_append, List.count_append, hcall, ih]
      exact Nat.add_comm 1 _
  rw [requests, List.count_append, hpast, calls]
  cases t.current with
  | none => rfl
  | some call => exact congrArg (t.past.length + ·) (hcall call)

/-- There were calls if there were requests. -/
theorem requests_eq_nil_iff (t : Dialogue) :
    t.requests = [] ↔ t.past = [] ∧ t.current = none := by
  obtain ⟨past, current⟩ := t
  cases past <;> cases current <;> simp [requests, VoiceCall.requests]

theorem record_eq (t : Dialogue) :
    t.record = if t.requests = [] then [] else .connected :: t.requests.map .request := by
  unfold record
  simp only [t.requests_eq_nil_iff]

/-! ## How it goes on -/

/-- `t` goes on to `t'` by some requests, with so many calls that begin and end. -/
structure Goes (t t' : Dialogue) (rs : List ModemRequest) (begun ended : Nat) : Prop where
  requests : t'.requests = t.requests ++ rs
  calls : t'.calls = t.calls + begun
  past : t'.past.length = t.past.length + ended

theorem Goes.refl (t : Dialogue) : t.Goes t [] 0 0 := ⟨(List.append_nil _).symm, rfl, rfl⟩

theorem Goes.trans {t t' t'' : Dialogue} {rs rs' : List ModemRequest} {b b' e e' : Nat}
    (h : t.Goes t' rs b e) (h' : t'.Goes t'' rs' b' e') :
    t.Goes t'' (rs ++ rs') (b + b') (e + e') where
  requests := by rw [h'.requests, h.requests, List.append_assoc]
  calls := by rw [h'.calls, h.calls, Nat.add_assoc]
  past := by rw [h'.past, h.past, Nat.add_assoc]

section

variable {t : Dialogue} {call : VoiceCall}

/-- A call begins. -/
def start (t : Dialogue) (call : VoiceCall) : Dialogue := { t with current := some call }

/-- Something changes in the call that is up. -/
def adjust (t : Dialogue) (a : Adjustment) : Dialogue :=
  { t with current :=
      t.current.map fun call => { call with adjustments := call.adjustments ++ [a] } }

/-- The call that is up ends. -/
def finish (t : Dialogue) (ending : CallPath) : Dialogue :=
  { past := t.past ++ t.current.toList.map (·, ending), current := none }

theorem goes_start (h : t.current = none) (call : VoiceCall) :
    t.Goes (t.start call) call.requests 1 0 where
  requests := by simp [requests, start, h]
  calls := by simp [calls, start, h]
  past := rfl

theorem goes_adjust (h : t.current = some call) (a : Adjustment) :
    t.Goes (t.adjust a) [a.request] 0 0 where
  requests := by simp [requests, adjust, h, VoiceCall.requests]
  calls := by simp [calls, adjust, h]
  past := rfl

theorem goes_finish (h : t.current = some call) (ending : CallPath) :
    t.Goes (t.finish ending) [.path ending] 0 1 where
  requests := by simp [requests, finish, h]
  calls := by simp [calls, finish, h]
  past := by simp [finish, h]

end

end Dialogue

end HandsetAudio
