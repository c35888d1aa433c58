import HandsetAudio.Proofs.Pcm.Ledger
import HandsetAudio.VoiceLoop

/-!
# The accounts of the voice loop

Two opens and two starts bring up the voice loop. Each of them can fail; then what was
opened is closed again:

> `start_cases`: after a start the loop has both substreams or none, depending on whether a
> call failed.
> `deal_start`: what it has is what is open, and no other lane heard of it.
-/

namespace HandsetAudio

namespace VoiceLoop

open PcmLedger

/-- The substreams of the loop. -/
def holdings (v : VoiceLoop) : Holdings := holding v.downlink .downlink + holding v.uplink .uplink

theorem holdings_empty : holdings {} = 0 := add_zero 0

/-- Each of the calls that bring up the loop succeeds. -/
def Unhindered {σ : Type} [PcmDriver σ] (card : Nat) (c : σ) : Prop :=
  ∃ down up, ∃ c₁ c₂ c₃ c₄ : σ,
    PcmDriver.acquire card .downlink .none .voice c = (.ok down, c₁) ∧
    PcmDriver.acquire card .uplink .none .voice c₁ = (.ok up, c₂) ∧
    PcmDriver.start down c₂ = (.ok (), c₃) ∧ PcmDriver.start up c₃ = (.ok (), c₄)

variable {σ : Type} [PcmDriver σ]

/-- The loop comes up with both substreams if no call fails, and not at all otherwise. -/
theorem acquire_cases (card : Nat) (c : σ) :
    (Unhindered card c ∧ ∃ down up, (acquire card c).1 = .ok ⟨some down, some up⟩) ∨
      (¬Unhindered card c ∧ ∃ e, (acquire card c).1 = .error e) := by
  by_cases h : Unhindered card c
  · obtain ⟨down, up, c₁, c₂, c₃, c₄, hdown, hup, hstart, hstart'⟩ := h
    refine .inl ⟨⟨down, up, c₁, c₂, c₃, c₄, hdown, hup, hstart, hstart'⟩, down, up, ?_⟩
    unfold acquire
    simp only [hdown, hup, hstart, hstart']
  · refine .inr ⟨h, ?_⟩
    unfold acquire
    split
    next e c₁ hdown => exact ⟨e, rfl⟩
    next down c₁ hdown =>
      split
      next e c₂ hup => exact ⟨e, rfl⟩
      next up c₂ hup =>
        split
        next e c₃ hstart => exact ⟨e, rfl⟩
        next c₃ hstart =>
          split
          next e c₄ hstart' => exact ⟨e, rfl⟩
          next c₄ hstart' =>
            exact absurd ⟨down, up, c₁, c₂, c₃, c₄, hdown, hup, hstart, hstart'⟩ h

theorem isOk_acquire_iff (card : Nat) (c : σ) :
    (acquire card c).1.isOk = true ↔ Unhindered card c := by
  rcases acquire_cases card c with ⟨hfree, down, up, hresult⟩ | ⟨hhindered, e, hresult⟩ <;>
    rw [hresult]
  · exact ⟨fun _ => hfree, fun _ => rfl⟩
  · exact ⟨fun h => (nomatch h), fun h => absurd h hhindered⟩

instance (card : Nat) (c : σ) : Decidable (Unhindered card c) :=
  decidable_of_iff _ (isOk_acquire_iff card c)

/-- The loop after a start has both substreams if no call failed, and none otherwise. -/
theorem start_cases (v : VoiceLoop) (card : Nat) (c : σ) :
    (Unhindered card (v.stop c).2 ∧ ∃ down up, (v.start card c).2.1 = ⟨some down, some up⟩) ∨
      (¬Unhindered card (v.stop c).2 ∧ (v.start card c).2.1 = {}) := by
  unfold start
  rcases acquire_cases card (v.stop c).2 with ⟨hfree, down, up, hresult⟩ | ⟨hhindered, e, hresult⟩
  · refine .inl ⟨hfree, down, up, ?_⟩
    split
    next e c' herror =>
      rw [herror] at hresult
      cases hresult
    next v' c' hok =>
      rw [hok] at hresult
      exact Except.ok.inj hresult
  · refine .inr ⟨hhindered, ?_⟩
    split
    next e' c' herror => rfl
    next v' c' hok =>
      rw [hok] at hresult
      cases hresult

variable [PcmLedger σ] [LawfulLedger σ]

/-- The move is on one of the modem's lanes. -/
def OnModem (e : PcmEvent) : Prop := e.lane.interface = .modem

theorem onModem_downlink (a : PcmAction) : OnModem ⟨a, .downlink⟩ := rfl

theorem onModem_uplink (a : PcmAction) : OnModem ⟨a, .uplink⟩ := rfl

/-- One substream of the loop is stopped and closed, if there is one. -/
theorem deal_release (c : σ) (id : Option SubstreamId) {lane : Lane}
    (hlane : OnModem ⟨.closed, lane⟩) (owned : Holdings) :
    Deal OnModem c (holding id lane + owned) (release id c) owned := by
  cases id with
  | none =>
    rw [holding_none, zero_add]
    exact (Calm.refl c).deal owned
  | some id => exact ((LawfulLedger.stop id c).deal _).trans (deal_close _ id hlane owned)

/-- Stopping the loop closes what it has. -/
theorem deal_stop (v : VoiceLoop) (c : σ) (owned : Holdings) :
    Deal OnModem c (v.holdings + owned) (v.stop c).2 owned := by
  rw [holdings, add_assoc]
  exact (deal_release c v.downlink (onModem_downlink _) _).trans
    (deal_release _ v.uplink (onModem_uplink _) owned)

/-- A device that goes closes what the loop has. -/
theorem deal_drop (v : VoiceLoop) (c : σ) (owned : Holdings) :
    Deal OnModem c (v.holdings + owned) (v.drop c).2 owned := by
  have hclose : ∀ (c : σ) (id : Option SubstreamId) {lane : Lane} (_ : OnModem ⟨.closed, lane⟩)
      (owned : Holdings),
      Deal OnModem c (holding id lane + owned) (id.elim c (PcmDriver.close · c)) owned := by
    intro c id lane hlane owned
    cases id with
    | none =>
      rw [holding_none, zero_add]
      exact (Calm.refl c).deal owned
    | some id => exact deal_close c id hlane owned
  have hdrop : (v.drop c).2 = v.uplink.elim (v.downlink.elim c (PcmDriver.close · c))
      (PcmDriver.close · (v.downlink.elim c (PcmDriver.close · c))) := by
    unfold drop
    cases v.downlink <;> cases v.uplink <;> rfl
  rw [holdings, add_assoc, hdrop]
  exact (hclose c v.downlink (onModem_downlink _) _).trans
    (hclose _ v.uplink (onModem_uplink _) owned)

/-- The loop that an attempt leaves. -/
def outcome : Except PcmError VoiceLoop → VoiceLoop
  | .ok v => v
  | .error _ => {}

/-- **All or nothing**: a loop that comes up owns a substream in each direction; of one that
does not, nothing stays open. -/
theorem deal_acquire (card : Nat) (c : σ) (owned : Holdings) :
    Deal OnModem c owned (acquire card c).2 ((outcome (acquire card c).1).holdings + owned) := by
  have hnothing : holdings {} + owned = owned := by rw [holdings_empty, zero_add]
  -- a start that failed closes what was opened, the uplink first
  have hundo : ∀ (c' : σ) (down up : SubstreamId),
      Deal OnModem c' ({(up, .uplink)} + ({(down, .downlink)} + owned))
        (PcmDriver.close down (PcmDriver.close up c')) owned := fun c' down up =>
    (deal_close c' up (onModem_uplink _) _).trans (deal_close _ down (onModem_downlink _) owned)
  unfold acquire
  split
  next e c₁ hdown =>
    rw [outcome, hnothing]
    exact (LawfulLedger.acquire_error hdown).deal (onModem_downlink _) owned
  next down c₁ hdown =>
    have hfirst : Deal OnModem c owned c₁ ({(down, .downlink)} + owned) :=
      (LawfulLedger.acquire_ok hdown).deal (onModem_downlink _) owned
    split
    next e c₂ hup =>
      rw [outcome, hnothing]
      have hfail : Deal OnModem c₁ ({(down, .downlink)} + owned) c₂ ({(down, .downlink)} + owned) :=
        (LawfulLedger.acquire_error hup).deal (onModem_uplink _) _
      exact (hfirst.trans hfail).trans (deal_close c₂ down (onModem_downlink _) owned)
    next up c₂ hup =>
      have hboth := hfirst.trans ((LawfulLedger.acquire_ok hup).deal (onModem_uplink _) _)
      have hstart := LawfulLedger.start down c₂
      split
      next e c₃ hdown' =>
        rw [hdown'] at hstart
        rw [outcome, hnothing]
        exact (hboth.trans (hstart.deal _)).trans (hundo c₃ down up)
      next c₃ hdown' =>
        rw [hdown'] at hstart
        have hstart' := LawfulLedger.start up c₃
        split
        next e c₄ hup' =>
          rw [hup'] at hstart'
          rw [outcome, hnothing]
          exact (hboth.trans ((hstart.trans hstart').deal _)).trans (hundo c₄ down up)
        next c₄ hup' =>
          rw [hup'] at hstart'
          have hheld : holdings ⟨some down, some up⟩ + owned =
              {(up, .uplink)} + ({(down, .downlink)} + owned) := by
            rw [holdings, holding_some, holding_some, add_comm {(down, Lane.downlink)}, add_assoc]
          rw [outcome, hheld]
          exact hboth.trans ((hstart.trans hstart').deal _)

/-- Starting the loop anew. -/
theorem deal_start (v : VoiceLoop) (card : Nat) (c : σ) (owned : Holdings) :
    Deal OnModem c (v.holdings + owned) (v.start card c).2.2
      ((v.start card c).2.1.holdings + owned) := by
  have hacquire := deal_acquire card (v.stop c).2 owned
  refine (v.deal_stop c owned).trans ?_
  unfold start
  split
  next e c' hresult =>
    rw [hresult] at hacquire
    exact hacquire
  next v' c' hresult =>
    rw [hresult] at hacquire
    exact hacquire

end VoiceLoop

end HandsetAudio
