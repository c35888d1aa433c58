import HandsetAudio.Pcm.ScriptedCard
import HandsetAudio.Proofs.Pcm.Ledger

/-!
# The ledger of the scripted card

The script may refuse any call. The card remembers every substream that it gave out; how
many are open on a lane is what its record leaves of them.
-/

namespace HandsetAudio

namespace ScriptedCard

/-- Everything recorded so far. -/
def history (c : ScriptedCard) : List PcmRecord := c.past ++ c.records

/-- The entry as an open or a close; an open is recorded before it is known to fail. -/
def move? : PcmRecord → Option PcmEvent
  | .call ⟨.acquire, lane⟩ => some ⟨.opened, lane⟩
  | .call ⟨.close, lane⟩ => some ⟨.closed, lane⟩
  | _ => none

instance : PcmLedger ScriptedCard where
  IsOpen c id lane := c.lanes[id]? = some lane
  openCount c lane := (c.lanes.count lane : Int) - c.history.count (.call ⟨.close, lane⟩)
  moves c := c.history.filterMap move?

open PcmLedger

variable {c : ScriptedCard} {id : SubstreamId}

/-- Entries that are about neither opening nor closing. -/
theorem calm_record {r : PcmRecord} (h : move? r = none) : Calm c (c.record r) := by
  have hhistory : (c.record r).history = c.history ++ [r] := (List.append_assoc ..).symm
  refine ⟨⟨fun _ _ hopen => hopen, fun lane => ?_⟩, ?_⟩
  · have hne : r ≠ .call ⟨.close, lane⟩ := by
      rintro rfl
      cases h
    show (c.lanes.count lane : Int) - ((c.record r).history.count _ : Nat) = _
    rw [hhistory, List.count_append, List.count_singleton, if_neg (by simpa using hne)]
    rfl
  · show (c.record r).history.filterMap move? = _
    rw [hhistory, List.filterMap_append, List.filterMap_cons_none h]
    exact List.append_nil _

theorem calm_call {call : PcmCall} (h : move? (.call call) = none) : Calm c (c.call call).2 :=
  calm_record h

theorem history_record (c : ScriptedCard) (r : PcmRecord) :
    (c.record r).history = c.history ++ [r] := (List.append_assoc ..).symm

theorem moves_call_acquire (c : ScriptedCard) (lane : Lane) :
    moves (c.call ⟨.acquire, lane⟩).2 = moves c ++ [⟨.opened, lane⟩] := by
  show (c.record _).history.filterMap move? = c.history.filterMap move? ++ _
  rw [history_record, List.filterMap_append]
  rfl

theorem keeps_call_acquire (c : ScriptedCard) (lane : Lane) :
    Keeps c (c.call ⟨.acquire, lane⟩).2 where
  isOpen _ _ hopen := hopen
  openCount lane' := by
    show (c.lanes.count lane' : Int) - ((c.record _).history.count _ : Nat) = _
    rw [history_record, List.count_append, List.count_singleton, if_neg (by simp)]
    rfl

instance : LawfulLedger ScriptedCard where
  acquire_ok {card lane flags config id c c'} h := by
    have hparameters : Calm c (c.record (.parameters card flags config.rate config.channels)) :=
      calm_record rfl
    simp only [PcmDriver.acquire, acquire] at h
    split at h
    next => cases h
    next u c₁ hcall =>
      obtain ⟨hid, rfl⟩ := Prod.mk.inj h
      obtain rfl := Except.ok.inj hid
      have hkept := hparameters.toKeeps.trans (keeps_call_acquire _ lane)
      have hmoved := moves_call_acquire
        (c.record (.parameters card flags config.rate config.channels)) lane
      rw [hcall] at hkept hmoved
      refine ⟨List.getElem?_concat_length, fun id' lane' hopen => ?_, fun lane' => ?_, ?_⟩
      · have hopen' : c₁.lanes[id']? = some lane' := hkept.isOpen id' lane' hopen
        have hlt := (List.getElem?_eq_some_iff.1 hopen').1
        exact ⟨Nat.ne_of_lt hlt, (List.getElem?_append_left hlt).trans hopen'⟩
      · rw [← hkept.openCount]
        show (((c₁.lanes ++ [lane]).count lane' : Nat) : Int) -
            (c₁.history.count (.call ⟨.close, lane'⟩) : Nat) =
          (c₁.lanes.count lane' : Nat) - (c₁.history.count (.call ⟨.close, lane'⟩) : Nat) + _
        rw [List.count_append, List.count_singleton]
        simp only [beq_iff_eq]
        split <;> omega
      · rw [← hparameters.moves]
        exact hmoved
  acquire_error {card lane flags config e c c'} h := by
    have hparameters : Calm c (c.record (.parameters card flags config.rate config.channels)) :=
      calm_record rfl
    simp only [PcmDriver.acquire, acquire] at h
    split at h
    next e' c₁ hcall =>
      obtain ⟨-, rfl⟩ := Prod.mk.inj h
      obtain rfl : _ = c₁ := congrArg Prod.snd hcall
      refine ⟨hparameters.toKeeps.trans (keeps_call_acquire _ lane), .inr ?_⟩
      rw [moves_call_acquire, hparameters.moves]
    next => cases h
  close {id lane c} hopen := by
    have hlane : c.laneOf id = lane := by
      have hsome : c.lanes[id]? = some lane := hopen
      simp [laneOf, hsome]
    have hclose : PcmDriver.close id c = c.record (.call ⟨.close, lane⟩) := by
      rw [← hlane]
      rfl
    rw [hclose]
    refine ⟨fun _ _ _ hother => hother, fun lane' => ?_, ?_⟩
    · show (c.lanes.count lane' : Int) - ((c.record _).history.count _ : Nat) =
        (c.lanes.count lane' : Int) - (c.history.count _ : Nat) - _
      rw [history_record, List.count_append, List.count_singleton]
      by_cases hsame : lane = lane'
      · subst hsame
        simp only [beq_self_eq_true, if_true]
        push_cast
        omega
      · simp [hsame]
    · show (c.record _).history.filterMap move? = c.history.filterMap move? ++ _
      rw [history_record, List.filterMap_append]
      rfl
  start id c := calm_call rfl
  stop id c := calm_call rfl
  write id _ c := calm_call rfl
  read id _ c := calm_call rfl
  avail _ c :=
    have hanswers : Calm c { c with answers := c.answers.tail } :=
      ⟨⟨fun _ _ h => h, fun _ => rfl⟩, rfl⟩
    hanswers.trans (calm_record rfl)

end ScriptedCard

end HandsetAudio
