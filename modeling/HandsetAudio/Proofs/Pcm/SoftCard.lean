import HandsetAudio.Proofs.Logs
import HandsetAudio.Proofs.Pcm.Loop

/-!
# The ledger of the software card

A substream is open while it is live; the card's own count tells how many are, and its
record tells what was opened and closed. There are two ways to count: by the substreams, and by
the record (`recordLedger`). The driver keeps to both.
-/

namespace HandsetAudio

namespace SoftCard

/-- The entry is about opening or closing. -/
def isMove (e : PcmEvent) : Bool := e.action = .opened || e.action = .closed

instance : PcmLedger SoftCard where
  IsOpen c id lane := ∃ s, c.substreams[id]? = some s ∧ s.live = true ∧ s.lane = lane
  openCount c lane := c.openCount lane
  moves c := c.events.filter isMove

variable {c : SoftCard} {id : SubstreamId} {s : Substream}

open PcmLedger

/-- Replacing an element changes a count by that element only. -/
theorem countP_set_add {α : Type} (p : α → Bool) (a' : α) {l : List α} {i : Nat} {a : α}
    (h : l[i]? = some a) :
    (l.set i a').countP p + (if p a then 1 else 0) = l.countP p + (if p a' then 1 else 0) := by
  induction l generalizing i with
  | nil => cases h
  | cons b l ih =>
    cases i with
    | zero =>
      obtain rfl : b = a := by simpa using h
      rw [List.set_cons_zero, List.countP_cons, List.countP_cons]
      exact Nat.add_right_comm ..
    | succ i =>
      have hrest := ih (i := i) (by simpa using h)
      rw [List.set_cons_succ, List.countP_cons, List.countP_cons]
      omega

theorem calm_record {action : PcmAction} {lane : Lane}
    (h : isMove (PcmEvent.mk action lane) = false) : Calm c (c.record action lane) where
  isOpen _ _ hopen := hopen
  openCount _ := rfl
  moves := by
    show (c.events ++ [PcmEvent.mk action lane]).filter isMove = c.events.filter isMove
    rw [List.filter_append, List.filter_cons_of_neg (Bool.eq_false_iff.1 h)]
    exact List.append_nil _

/-- Replacing a substream by one that is as open and on the same lane. -/
theorem calm_put (h : c.substreams[id]? = some s) {s' : Substream} (hlive : s'.live = s.live)
    (hlane : s'.lane = s.lane) : Calm c (c.put id s') where
  isOpen id' lane hopen := by
    obtain ⟨t, ht, htlive, htlane⟩ := hopen
    show ∃ t, (c.substreams.set id s')[id']? = some t ∧ t.live = true ∧ t.lane = lane
    by_cases hid : id = id'
    · subst hid
      obtain rfl := Option.some.inj (h.symm.trans ht)
      have hlt := (List.getElem?_eq_some_iff.1 h).1
      exact ⟨s', List.getElem?_set_self hlt, hlive.trans htlive, hlane.trans htlane⟩
    · exact ⟨t, by rw [List.getElem?_set_ne hid, ht], htlive, htlane⟩
  openCount lane := by
    have hcount := countP_set_add (fun t => t.live && decide (t.lane = lane)) s' h
    rw [hlive, hlane] at hcount
    exact congrArg Int.ofNat (Nat.add_right_cancel hcount)
  moves := rfl

/-- What befalls anything but the substreams opens and closes none. -/
theorem keeps_of_substreams {c' : SoftCard} (h : c'.substreams = c.substreams) : Keeps c c' where
  isOpen id lane hopen := by
    obtain ⟨s, hs, hlive, hlane⟩ := hopen
    exact ⟨s, by rw [h, hs], hlive, hlane⟩
  openCount lane := by
    show ((c'.substreams.countP _ : Nat) : Int) = (c.substreams.countP _ : Nat)
    rw [h]

theorem calm_ensureRunning (c : SoftCard) (s : Substream) : Calm c (c.ensureRunning s) := by
  unfold ensureRunning
  split
  next => exact .refl c
  next => exact calm_record rfl

theorem substreams_ensureRunning (c : SoftCard) (s : Substream) :
    (c.ensureRunning s).substreams = c.substreams := by
  unfold ensureRunning
  split <;> rfl

/-- An open that fails leaves the card as it is. -/
theorem acquire_refused {card : Nat} {lane : Lane} {flags : PcmFlags} {config : PcmConfig}
    {e : PcmError} {c' : SoftCard}
    (h : PcmDriver.acquire card lane flags config c = (.error e, c')) : c' = c := by
  rcases acquire_cases card lane flags config c with ⟨-, hacquire⟩ | ⟨-, hacquire⟩
  · exact (Prod.mk.inj (hacquire.symm.trans h)).2.symm
  · cases (Prod.mk.inj (hacquire.symm.trans h)).1

/-- A transfer is on the substream that it was on. -/
theorem calm_transferred (hs : c.substreams[id]? = some s) {s' : Substream}
    (hlive : s'.live = s.live) (hlane : s'.lane = s.lane) :
    Calm c ((c.ensureRunning s).put id s') := by
  rw [← substreams_ensureRunning c s] at hs
  exact (calm_ensureRunning c s).trans (calm_put hs hlive hlane)

/-- A new substream is open on its lane, and nothing else changes. -/
theorem opens_enlist (c : SoftCard) (lane : Lane) (config : PcmConfig) (ring : Ring) :
    Opens c c.substreams.length lane (c.enlist lane config ring) where
  isOpen := ⟨_, List.getElem?_concat_length, rfl, rfl⟩
  others := by
    rintro id' lane' ⟨s, hs, hlive, hlane⟩
    have hlt := (List.getElem?_eq_some_iff.1 hs).1
    exact ⟨Nat.ne_of_lt hlt, s, by rw [← hs]; exact List.getElem?_append_left hlt, hlive, hlane⟩
  openCount lane' := by
    show (((c.substreams ++ _).countP _ : Nat) : Int) = (c.substreams.countP _ : Nat) + _
    rw [List.countP_append, List.countP_singleton]
    simp only [Bool.true_and, decide_eq_true_eq]
    split <;> omega
  moves := by
    show (c.events ++ [_]).filter isMove = c.events.filter isMove ++ _
    rw [List.filter_append]
    rfl

instance : LawfulLedger SoftCard where
  acquire_ok {card lane flags config id c c'} h := by
    rcases acquire_cases card lane flags config c with ⟨-, hacquire⟩ | ⟨-, hacquire⟩
    · rw [hacquire] at h
      cases (Prod.mk.inj h).1
    · rw [hacquire] at h
      obtain ⟨hid, rfl⟩ := Prod.mk.inj h
      obtain rfl := Except.ok.inj hid
      exact opens_enlist c lane config _
  acquire_error {card lane flags config e c c'} h := by
    obtain rfl := acquire_refused h
    exact ⟨(Calm.refl c').toKeeps, .inl rfl⟩
  close {id lane c} hopen := by
    obtain ⟨s, hs, hlive, rfl⟩ := hopen
    have hclose : PcmDriver.close id c =
        ((c.put id { s with live := false }).countOut s.lane).record .closed s.lane := by
      simp [PcmDriver.close, close, hs]
    rw [hclose]
    refine ⟨?_, ?_, ?_⟩
    · rintro id' lane' hid ⟨t, ht, htlive, htlane⟩
      exact ⟨t, (List.getElem?_set_ne hid.symm).trans ht, htlive, htlane⟩
    · intro lane'
      have hcount' := countP_set_add (fun t => t.live && decide (t.lane = lane'))
        { s with live := false } hs
      simp only [hlive, Bool.true_and, Bool.false_and, decide_eq_true_eq, Bool.false_eq_true,
        if_false, Nat.add_zero] at hcount'
      show (((c.substreams.set id _).countP _ : Nat) : Int) = (c.substreams.countP _ : Nat) - _
      rw [← hcount']
      split <;> omega
    · show (c.events ++ [_]).filter isMove = c.events.filter isMove ++ _
      rw [List.filter_append]
      rfl
  start id c := by
    simp only [PcmDriver.start, start]
    split
    next => exact .refl c
    next s hs =>
      have hput : Calm c (c.put id { s with running := true }) := calm_put hs rfl rfl
      exact hput.trans (calm_record rfl)
  stop id c := by
    simp only [PcmDriver.stop, stop]
    split
    next => exact .refl c
    next s hs =>
      have hput : Calm c (c.put id { s with running := false }) := calm_put hs rfl rfl
      exact hput.trans (calm_record rfl)
  write id bytes c := by
    rcases write_cases id bytes c with ⟨e, hwrite⟩ | ⟨s, hs, -, -, hwrite⟩
    · rw [hwrite]
      exact .refl c
    · rw [hwrite]
      exact calm_transferred hs rfl rfl
  read id length c := by
    rcases read_cases id length c with ⟨e, hread⟩ | ⟨s, hs, -, -, hread⟩
    · rw [hread]
      exact .refl c
    · rw [hread]
      exact calm_transferred hs rfl rfl
  avail id c := .refl c

/-! ## Counting by the record -/

/-- How many substreams of a lane are open by the record. -/
def recordedOpen (c : SoftCard) (lane : Lane) : Int :=
  c.events.count ⟨.opened, lane⟩ - c.events.count ⟨.closed, lane⟩

/-- The ledger that counts by the record. -/
abbrev recordLedger : PcmLedger SoftCard where
  IsOpen := PcmLedger.IsOpen
  openCount := recordedOpen
  moves := PcmLedger.moves

/-- Only opens and closes count. -/
theorem recordedOpen_eq (c : SoftCard) (lane : Lane) :
    c.recordedOpen lane = (PcmLedger.moves c).count ⟨.opened, lane⟩ -
      (PcmLedger.moves c).count ⟨.closed, lane⟩ := by
  have hcount : ∀ e, isMove e = true → (PcmLedger.moves c).count e = c.events.count e :=
    fun e he => List.count_filter he
  rw [hcount _ rfl, hcount _ rfl]
  rfl

theorem recordedOpen_of_moves {c' : SoftCard} (h : PcmLedger.moves c' = PcmLedger.moves c)
    (lane : Lane) : c'.recordedOpen lane = c.recordedOpen lane := by
  rw [recordedOpen_eq, recordedOpen_eq, h]

theorem calm_recordLedger {c' : SoftCard} (h : Calm c c') : @Calm SoftCard recordLedger c c' :=
  @Calm.mk SoftCard recordLedger c c'
    (@Keeps.mk SoftCard recordLedger c c' h.isOpen (recordedOpen_of_moves h.moves)) h.moves

theorem lawful_recordLedger : @LawfulLedger SoftCard _ recordLedger := by
  refine @LawfulLedger.mk SoftCard _ recordLedger ?_ ?_ ?_
    (fun id c => calm_recordLedger (LawfulLedger.start id c))
    (fun id c => calm_recordLedger (LawfulLedger.stop id c))
    (fun id bytes c => calm_recordLedger (LawfulLedger.write id bytes c))
    (fun id length c => calm_recordLedger (LawfulLedger.read id length c))
    (fun id c => calm_recordLedger (LawfulLedger.avail id c))
  · intro card lane flags config id c c' h
    have hopens := LawfulLedger.acquire_ok h
    refine @Opens.mk SoftCard recordLedger c id lane c' hopens.isOpen hopens.others
      (fun lane' => ?_) hopens.moves
    show c'.recordedOpen lane' = c.recordedOpen lane' + _
    rw [recordedOpen_eq, recordedOpen_eq, hopens.moves]
    by_cases hlane : lane = lane' <;> simp [hlane]
    omega
  · intro card lane flags config e c c' h
    obtain rfl := acquire_refused h
    exact @Fails.mk SoftCard recordLedger c' lane c'
      (@Keeps.mk SoftCard recordLedger c' c' (fun _ _ hopen => hopen) fun _ => rfl) (.inl rfl)
  · intro id lane c hopen
    have hcloses : Closes c id lane (PcmDriver.close id c) := LawfulLedger.close hopen
    refine @Closes.mk SoftCard recordLedger c id lane _ hcloses.others (fun lane' => ?_)
      hcloses.moves
    show recordedOpen _ lane' = c.recordedOpen lane' - _
    rw [recordedOpen_eq, recordedOpen_eq, hcloses.moves]
    by_cases hlane : lane = lane' <;> simp [hlane]
    omega

/-! ## What is recorded of a lane -/

theorem grows_acquire (card : Nat) (lane : Lane) (flags : PcmFlags) (config : PcmConfig)
    (c : SoftCard) : Grows (·.lane = lane) c.events
      (PcmDriver.acquire card lane flags config c).2.events := by
  rcases acquire_cases card lane flags config c with ⟨-, hacquire⟩ | ⟨-, hacquire⟩
  · rw [hacquire]
    exact .refl _
  · rw [hacquire]
    exact .concat _ rfl

section

variable {lane : Lane} (h : IsOpen c id lane)

include h

theorem grows_ensureRunning (hs : c.substreams[id]? = some s) :
    Grows (·.lane = lane) c.events (c.ensureRunning s).events := by
  obtain ⟨t, ht, -, hlane⟩ := h
  obtain rfl := Option.some.inj (hs.symm.trans ht)
  unfold ensureRunning
  split
  next => exact .refl _
  next => exact .concat _ hlane

theorem grows_write (bytes : List UInt8) :
    Grows (·.lane = lane) c.events (PcmDriver.write id bytes c).2.events := by
  rcases write_cases id bytes c with ⟨e, hwrite⟩ | ⟨s, hs, -, -, hwrite⟩
  · rw [hwrite]
    exact .refl _
  · rw [hwrite]
    exact grows_ensureRunning h hs

theorem grows_read (length : Nat) :
    Grows (·.lane = lane) c.events (PcmDriver.read id length c).2.events := by
  rcases read_cases id length c with ⟨e, hread⟩ | ⟨s, hs, -, -, hread⟩
  · rw [hread]
    exact .refl _
  · rw [hread]
    exact grows_ensureRunning h hs

theorem grows_close : Grows (·.lane = lane) c.events (PcmDriver.close id c).events := by
  obtain ⟨s, hs, -, hlane⟩ := h
  simp only [PcmDriver.close, close, hs]
  exact .concat _ hlane

end

/-! ## Opens that are granted -/

theorem start_known (h : id < c.substreams.length) :
    ∃ c', PcmDriver.start id c = (.ok (), c') ∧ c'.substreams.length = c.substreams.length := by
  simp only [PcmDriver.start, start, List.getElem?_eq_getElem h]
  exact ⟨_, rfl, List.length_set⟩

/-- Without a mapping a lane can be opened that is not refused, if the ring is not enormous. -/
theorem grants_unmapped {lane : Lane} {config : PcmConfig} (h : lane ∉ c.refusedLanes)
    (hroom : Ring.bytesFor config.bufferFrames (max config.channels 1) false < 2 ^ 63) :
    c.Grants lane .none config := ⟨h, hroom⟩

/-- On the software card the voice loop comes up exactly if no lane of the modem is
refused. -/
theorem unhindered_iff (card : Nat) (c : SoftCard) : VoiceLoop.Unhindered card c ↔
    Lane.downlink ∉ c.refusedLanes ∧ Lane.uplink ∉ c.refusedLanes := by
  constructor
  · rintro ⟨down, up, c₁, c₂, c₃, c₄, hdown, hup, -, -⟩
    rcases acquire_cases card .downlink .none .voice c with ⟨-, hacquire⟩ | ⟨hfree, hacquire⟩
    · cases (Prod.mk.inj (hacquire.symm.trans hdown)).1
    obtain ⟨-, rfl⟩ := Prod.mk.inj (hacquire.symm.trans hdown)
    rcases acquire_cases card .uplink .none .voice _ with ⟨-, hacquire'⟩ | ⟨hfree', -⟩
    · cases (Prod.mk.inj (hacquire'.symm.trans hup)).1
    exact ⟨hfree.1, hfree'.1⟩
  · rintro ⟨hdown, hup⟩
    have hgrants : c.Grants .downlink .none .voice := grants_unmapped hdown (by decide)
    have hacquire := acquire_granted card hgrants
    set c₁ := c.enlist .downlink .voice _ with hc₁
    have hgrants' : c₁.Grants .uplink .none .voice := grants_unmapped hup (by decide)
    have hacquire' := acquire_granted card hgrants'
    set c₂ := c₁.enlist .uplink .voice _ with hc₂
    have hlength : c₁.substreams.length = c.substreams.length + 1 := List.length_append
    have hlength' : c₂.substreams.length = c₁.substreams.length + 1 := List.length_append
    -- both numbers are known to the card by then
    have hdown' : c.substreams.length < c₂.substreams.length := by omega
    obtain ⟨c₃, hc₃, hlength''⟩ := start_known hdown'
    have hup' : c₁.substreams.length < c₃.substreams.length := by omega
    obtain ⟨c₄, hc₄, -⟩ := start_known hup'
    exact ⟨_, _, c₁, c₂, c₃, c₄, hacquire, hacquire', hc₃, hc₄⟩

end SoftCard

end HandsetAudio
