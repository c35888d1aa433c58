import HandsetAudio.Pcm.ScriptedCard
import HandsetAudio.Proofs.Pcm.Loop
import HandsetAudio.Proofs.Pcm.Watched

/-!
# Calls of the voice loop

Whatever a card answers to whatever is asked of it, the two substreams of the voice loop come and
go together. Nothing is assumed of the card; what happens is read off the record of a
`Watched` one. Main statement:

> `pair_all_or_nothing`: between the calls both substreams run or none is open, a start answers
> for its opens and starts, and once the loop is dropped every substream ever opened is closed.
-/

namespace HandsetAudio

/-- What is asked of the voice loop. -/
inductive LoopCall where
  /-- Start it on a card. -/
  | start (card : Nat)
  /-- Stop it. -/
  | stop
  deriving DecidableEq

namespace VoiceLoop

open Watched

section

variable {σ : Type} [PcmDriver σ]

/-- The loop and the card after a call. -/
def call (v : VoiceLoop) (c : σ) : LoopCall → VoiceLoop × σ
  | .start card => (v.start card c).2
  | .stop => v.stop c

/-- The loop and the card after some calls, the first of them on a loop without substreams. -/
def calls (c : σ) (calls : List LoopCall) : VoiceLoop × σ :=
  calls.foldl (fun (v, c) => v.call c) ({}, c)

theorem calls_concat (c : σ) (earlier : List LoopCall) (last : LoopCall) :
    calls c (earlier ++ [last]) = (calls c earlier).1.call (calls c earlier).2 last := by
  rw [calls, List.foldl_append]
  rfl

end

/-! ## What is recorded -/

/-- What a loop that is stopped leaves in the record: the downlink goes first, and no stop that
fails keeps a substream from being closed. -/
inductive Parting : VoiceLoop → List Note → Prop where
  | idle : Parting {} []
  | pair (down up : SubstreamId) (ok ok' : Bool) : Parting ⟨some down, some up⟩
      [.done down (.stopped ok), .done down .closed, .done up (.stopped ok'), .done up .closed]

/-- What an attempt to bring up a loop leaves in the record, where the first substream that it
opens gets the number `n`; how many it opens, and the loop that comes of it. -/
inductive Attempt (n : SubstreamId) : List Note → Nat → VoiceLoop → Prop where
  | noDownlink : Attempt n [.refused .downlink] 0 {}
  | noUplink : Attempt n [.done n (.opened .downlink), .refused .uplink, .done n .closed] 1 {}
  | downlinkStuck : Attempt n [.done n (.opened .downlink), .done (n + 1) (.opened .uplink),
      .done n (.started false), .done (n + 1) .closed, .done n .closed] 2 {}
  | uplinkStuck : Attempt n [.done n (.opened .downlink), .done (n + 1) (.opened .uplink),
      .done n (.started true), .done (n + 1) (.started false), .done (n + 1) .closed,
      .done n .closed] 2 {}
  | both : Attempt n [.done n (.opened .downlink), .done (n + 1) (.opened .uplink),
      .done n (.started true), .done (n + 1) (.started true)] 2 ⟨some n, some (n + 1)⟩

section

variable {σ : Type} [PcmDriver σ] (w : Watched σ)

/-- The loop as the card knows it. -/
def renamed (w : Watched σ) (v : VoiceLoop) : VoiceLoop :=
  ⟨v.downlink.map w.ownId, v.uplink.map w.ownId⟩

/-- Two new substreams are closed, the uplink first, and the card closes its own. -/
theorem undo_spec {notes : List Note} {down up : SubstreamId} {w' : Watched σ}
    (h : w.Adds notes [down, up] w') :
    w.Adds (notes ++ [.done (w.opened + 1) .closed] ++ [.done w.opened .closed]) [down, up]
        (PcmDriver.close w.opened (PcmDriver.close (w.opened + 1) w')) ∧
      PcmDriver.close down (PcmDriver.close up w'.card) =
        (PcmDriver.close w.opened (PcmDriver.close (w.opened + 1) w')).card := by
  have hup := h.close (w.opened + 1)
  refine ⟨hup.close w.opened, ?_⟩
  have hownDown : (PcmDriver.close (w.opened + 1) w').ownId w.opened = down := hup.ownId_new 0 rfl
  rw [card_close, hownDown, card_close, h.ownId_new 1 rfl]

/-- Bringing up a loop is recorded as an attempt, and is one of the card. -/
theorem acquire_spec (card : Nat) : ∃ answer notes own w', acquire card w = (answer, w') ∧
    w.Adds notes own w' ∧ Attempt w.opened notes own.length (outcome answer) ∧
    acquire card w.card = (answer.map (renamed w'), w'.card) := by
  -- the card's answers decide, and each of them is recorded
  obtain ⟨e, w₁, hdown, hdown', hadds⟩ | ⟨down, w₁, hdown, hdown', hadds⟩ :=
    w.acquire_cases card .downlink .none .voice
  · refine ⟨.error e, _, _, w₁, ?_, hadds, .noDownlink, ?_⟩
    · simp only [acquire, hdown]
    · simp only [acquire, hdown']
      rfl
  obtain ⟨e, w₂, hup, hup', hadds'⟩ | ⟨up, w₂, hup, hup', hadds'⟩ :=
    w₁.acquire_cases card .uplink .none .voice
  · have hone : w.Adds _ [down] w₂ := hadds.trans hadds'
    have hown : w₂.ownId w.opened = down := hone.ownId_new 0 rfl
    refine ⟨.error e, _, _, _, ?_, hone.close w.opened, .noUplink, ?_⟩
    · simp only [acquire, hdown, hup]
    · simp only [acquire, hdown', hup', card_close, hown]
      rfl
  have hn : w₁.opened = w.opened + 1 := hadds.opened
  rw [hn] at hup hadds'
  have htwo : w.Adds _ [down, up] w₂ := hadds.trans hadds'
  obtain ⟨answer, w₃, hstart, hstart', hadds⟩ := w₂.start_spec w.opened
  have hthree : w.Adds _ [down, up] w₃ := htwo.trans hadds
  have hownDown : w₂.ownId w.opened = down := htwo.ownId_new 0 rfl
  rw [hownDown] at hstart'
  rcases answer with e | ⟨⟩
  · obtain ⟨hundone, hclosed⟩ := undo_spec w hthree
    refine ⟨.error e, _, _, _, ?_, hundone, .downlinkStuck, ?_⟩
    · simp only [acquire, hdown, hup, hstart]
    · simp only [acquire, hdown', hup', hstart', hclosed]
      rfl
  obtain ⟨answer, w₄, hlast, hlast', hadds⟩ := w₃.start_spec (w.opened + 1)
  have hfour : w.Adds _ [down, up] w₄ := hthree.trans hadds
  rw [hthree.ownId_new 1 rfl] at hlast'
  rcases answer with e | ⟨⟩
  · obtain ⟨hundone, hclosed⟩ := undo_spec w hfour
    refine ⟨.error e, _, _, _, ?_, hundone, .uplinkStuck, ?_⟩
    · simp only [acquire, hdown, hup, hstart, hlast]
    · simp only [acquire, hdown', hup', hstart', hlast', hclosed]
      rfl
  · have hownDown : w₄.ownId w.opened = down := hfour.ownId_new 0 rfl
    refine ⟨.ok ⟨some w.opened, some (w.opened + 1)⟩, _, _, _, ?_, hfour, .both, ?_⟩
    · simp only [acquire, hdown, hup, hstart, hlast]
    · simp only [acquire, hdown', hup', hstart', hlast', Except.map, renamed, Option.map_some,
        hownDown, hfour.ownId_new 1 rfl]

/-- One substream is stopped and closed, and the card stops and closes its own. -/
theorem release_spec (id : SubstreamId) : ∃ ok w', release (some id) w = w' ∧
    w.Adds [.done id (.stopped ok), .done id .closed] [] w' ∧
    release (some (w.ownId id)) w.card = w'.card := by
  obtain ⟨answer, w', hstop, hstop', hadds⟩ := w.stop_spec id
  refine ⟨answer.isOk, PcmDriver.close id w', ?_, hadds.close id, ?_⟩
  · simp only [release, hstop]
  · simp only [release, hstop', card_close, hadds.ownId]

theorem parting_stop {v : VoiceLoop} (hv : v = {} ∨ ∃ down up, v = ⟨some down, some up⟩) :
    ∃ notes w', v.stop w = ({}, w') ∧ w.Adds notes [] w' ∧ Parting v notes ∧
      (renamed w v).stop w.card = ({}, w'.card) := by
  rcases hv with rfl | ⟨down, up, rfl⟩
  · exact ⟨[], w, rfl, .refl w, .idle, rfl⟩
  · obtain ⟨ok, w₁, hdown, hadds, hdown'⟩ := release_spec w down
    obtain ⟨ok', w₂, hup, hadds', hup'⟩ := release_spec w₁ up
    refine ⟨_, w₂, ?_, hadds.trans hadds', .pair down up ok ok', ?_⟩
    · simp only [stop, hdown, hup]
    · rw [hadds.ownId] at hup'
      simp only [stop, renamed, Option.map_some, hdown', hup']

end

/-! ## The substreams of the loop -/

section

variable {n k id : Nat} {notes : List Note} {v : VoiceLoop}

/-- Only what an attempt opens is told of. -/
theorem Attempt.told_eq_nil (h : Attempt n notes k v) (hid : id < n ∨ n + k ≤ id) :
    told notes id = [] := by
  cases h with
  | noDownlink => rfl
  | noUplink =>
    have hne : n ≠ id := by omega
    simp [Note.tells, hne]
  | downlinkStuck | uplinkStuck | both =>
    have hne : n ≠ id := by omega
    have hne' : n + 1 ≠ id := by omega
    simp [Note.tells, hne, hne']

/-- What is opened in vain is closed again. -/
theorem Attempt.finished (h : Attempt n notes k {}) (hid : n ≤ id) (hid' : id < n + k) :
    Finished (told notes id) := by
  cases h with
  | noDownlink => omega
  | noUplink =>
    obtain rfl : id = n := by omega
    exact ⟨.downlink, [], by simp [Note.tells], by simp⟩
  | downlinkStuck =>
    obtain rfl | rfl : id = n ∨ id = n + 1 := by omega
    · exact ⟨.downlink, [.started false], by simp [Note.tells], by simp⟩
    · exact ⟨.uplink, [], by simp [Note.tells], by simp⟩
  | uplinkStuck =>
    obtain rfl | rfl : id = n ∨ id = n + 1 := by omega
    · exact ⟨.downlink, [.started true], by simp [Note.tells], by simp⟩
    · exact ⟨.uplink, [.started false], by simp [Note.tells], by simp⟩

/-- An attempt fails with a loop that is not there, or brings up the two that it opened. -/
theorem Attempt.cases_loop (h : Attempt n notes k v) : v = {} ∨
    v = ⟨some n, some (n + 1)⟩ ∧ k = 2 ∧ Running .downlink (told notes n) ∧
      Running .uplink (told notes (n + 1)) := by
  cases h with
  | both =>
    refine .inr ⟨rfl, rfl, ?_, ?_⟩
    · simp [Running, Note.tells]
    · simp [Running, Note.tells]
  | _ => exact .inl rfl

/-- A loop comes up if and only if the two opens and the two starts succeed. -/
theorem Attempt.ne_empty_iff (h : Attempt n notes k v) : v ≠ {} ↔ ∃ down up, notes =
    [.done down (.opened .downlink), .done up (.opened .uplink),
      .done down (.started true), .done up (.started true)] := by
  cases h <;> simp

/-- No loop comes up if and only if one of the calls made fails. -/
theorem Attempt.eq_empty_iff (h : Attempt n notes k v) :
    v = {} ↔ ∃ entry ∈ notes, entry.failed = true := by
  cases h <;> simp [Note.failed]

/-- What parting tells of a substream that was the loop's: it is stopped, then closed. -/
theorem Parting.told (h : Parting v notes) (hne : v.downlink ≠ v.uplink)
    (hid : v.downlink = some id ∨ v.uplink = some id) :
    ∃ ok, told notes id = [.stopped ok, .closed] := by
  cases h with
  | idle => exact absurd rfl hne
  | pair down up ok ok' =>
    have hne' : down ≠ up := fun heq => hne (congrArg some heq)
    rcases hid with hid | hid
    · obtain rfl := Option.some.inj hid
      exact ⟨ok, by simp [Note.tells, hne'.symm]⟩
    · obtain rfl := Option.some.inj hid
      exact ⟨ok', by simp [Note.tells, hne']⟩

theorem Parting.told_eq_nil (h : Parting v notes) (hdown : v.downlink ≠ some id)
    (hup : v.uplink ≠ some id) : Watched.told notes id = [] := by
  cases h with
  | idle => rfl
  | pair down up ok ok' =>
    have hne : down ≠ id := fun heq => hdown (congrArg some heq)
    have hne' : up ≠ id := fun heq => hup (congrArg some heq)
    simp [Note.tells, hne, hne']

end

variable {σ : Type}

/-- The loop has both substreams or none, it runs what it has, and whatever else was opened is
closed. -/
structure Paired (v : VoiceLoop) (w : Watched σ) : Prop where
  /-- Two different substreams run, one in each direction, or there is none. -/
  whole : v = {} ∨ ∃ down up, v = ⟨some down, some up⟩ ∧ down ≠ up ∧
    Running .downlink (w.story down) ∧ Running .uplink (w.story up)
  /-- What was opened and is not the loop's has had its whole life. -/
  finished : ∀ id < w.opened, v.downlink ≠ some id → v.uplink ≠ some id → Finished (w.story id)
  /-- Nothing has happened to other numbers. -/
  unopened : ∀ id, w.opened ≤ id → w.story id = []

variable {w w' : Watched σ} {v v' : VoiceLoop} {notes : List Note} {own : List SubstreamId}

/-- At first there is nothing. -/
theorem paired_start (c : σ) : Paired {} ({ card := c } : Watched σ) where
  whole := .inl rfl
  finished id hid := absurd hid (Nat.not_lt_zero id)
  unopened _ _ := rfl

theorem Paired.shape (h : Paired v w) : v = {} ∨ ∃ down up, v = ⟨some down, some up⟩ :=
  h.whole.imp_right fun ⟨down, up, hv, _⟩ => ⟨down, up, hv⟩

/-- What the loop has runs. -/
theorem Paired.running (h : Paired v w) {id : Nat}
    (hid : v.downlink = some id ∨ v.uplink = some id) :
    v.downlink ≠ v.uplink ∧ ∃ lane, Running lane (w.story id) := by
  rcases h.whole with rfl | ⟨down, up, rfl, hne, hdown, hup⟩
  · rcases hid with hid | hid <;> cases hid
  · refine ⟨fun heq => hne (Option.some.inj heq), ?_⟩
    rcases hid with hid | hid
    · exact ⟨.downlink, Option.some.inj hid ▸ hdown⟩
    · exact ⟨.uplink, Option.some.inj hid ▸ hup⟩

/-- What the loop has was opened. -/
theorem Paired.not_held (h : Paired v w) {id : Nat} (hid : w.opened ≤ id) :
    v.downlink ≠ some id ∧ v.uplink ≠ some id := by
  rw [← not_or]
  intro hheld
  obtain ⟨-, lane, hrunning⟩ := h.running hheld
  rw [h.unopened id hid] at hrunning
  cases hrunning

/-- Once what the loop has is closed, stopped before or not, everything is. -/
theorem Paired.part (h : Paired v w) (hadds : w.Adds notes [] w')
    (hclosed : ∀ id, v.downlink = some id ∨ v.uplink = some id → v.downlink ≠ v.uplink →
      ∃ stops, told notes id = stops ++ [.closed] ∧ ∀ act ∈ stops, ∃ ok, act = .stopped ok)
    (hother : ∀ id, v.downlink ≠ some id → v.uplink ≠ some id → told notes id = []) :
    Paired {} w' := by
  have hopened : w'.opened = w.opened := hadds.opened
  refine ⟨.inl rfl, ?_, ?_⟩
  · intro id hid _ _
    rw [hopened] at hid
    rw [hadds.story]
    by_cases hheld : v.downlink = some id ∨ v.uplink = some id
    · obtain ⟨hne, lane, hrunning⟩ := h.running hheld
      obtain ⟨stops, htold, hstops⟩ := hclosed id hheld hne
      rw [htold]
      exact hrunning.finished hstops
    · obtain ⟨hdown, hup⟩ := not_or.1 hheld
      rw [hother id hdown hup, List.append_nil]
      exact h.finished id hid hdown hup
  · intro id hid
    rw [hopened] at hid
    obtain ⟨hdown, hup⟩ := h.not_held hid
    rw [hadds.story, h.unopened id hid, hother id hdown hup]
    rfl

/-- An attempt leaves a loop with what it opened, or nothing that is open. -/
theorem Paired.attempt (h : Paired {} w) (hadds : w.Adds notes own w')
    (hattempt : Attempt w.opened notes own.length v') : Paired v' w' where
  whole := by
    rcases hattempt.cases_loop with hnone | ⟨hv, -, hdown, hup⟩
    · exact .inl hnone
    · refine .inr ⟨_, _, hv, Nat.ne_of_lt (Nat.lt_succ_self _), ?_, ?_⟩
      · rw [hadds.story, h.unopened _ (Nat.le_refl _)]
        exact hdown
      · rw [hadds.story, h.unopened _ (Nat.le_succ _)]
        exact hup
  finished id hid hdown hup := by
    rw [hadds.opened] at hid
    rw [hadds.story]
    by_cases hold : id < w.opened
    · rw [hattempt.told_eq_nil (.inl hold), List.append_nil]
      exact h.finished id hold (by simp) (by simp)
    · have hnew : w.opened ≤ id := by omega
      rw [h.unopened id hnew, List.nil_append]
      rcases hattempt.cases_loop with rfl | ⟨rfl, htwo, -, -⟩
      · exact hattempt.finished hnew hid
      · -- both numbers are the loop's
        rw [htwo] at hid
        have hid' : id ≠ w.opened := fun heq => hdown (congrArg some heq.symm)
        have hid'' : id ≠ w.opened + 1 := fun heq => hup (congrArg some heq.symm)
        omega
  unopened id hid := by
    rw [hadds.opened] at hid
    have hid' : w.opened ≤ id := by omega
    rw [hadds.story, h.unopened id hid', hattempt.told_eq_nil (.inr hid)]
    rfl

/-! ## Runs -/

variable [PcmDriver σ]

/-- A loop that is stopped has parted from its substreams. -/
theorem Paired.stop (h : Paired v w) : ∃ notes w', v.stop w = ({}, w') ∧ w.Adds notes [] w' ∧
    Parting v notes ∧ Paired {} w' ∧ (renamed w v).stop w.card = ({}, w'.card) := by
  obtain ⟨notes, w', hstop, hadds, hparting, hcard⟩ := parting_stop w h.shape
  refine ⟨notes, w', hstop, hadds, hparting, h.part hadds ?_ ?_, hcard⟩
  · intro id hid hne
    obtain ⟨ok, htold⟩ := hparting.told hne hid
    exact ⟨[.stopped ok], htold, by simp⟩
  · intro id hdown hup
    exact hparting.told_eq_nil hdown hup

/-- A start first parts from what the loop has, then makes an attempt. -/
theorem Paired.start (h : Paired v w) (card : Nat) : ∃ answer v' w' parting attempt own,
    v.start card w = (answer, v', w') ∧ w.Adds (parting ++ attempt) own w' ∧
    Parting v parting ∧ Attempt w.opened attempt own.length v' ∧ Paired v' w' ∧
    (answer.isOk = true ↔ v' ≠ {}) ∧
    (renamed w v).start card w.card = (answer, renamed w' v', w'.card) := by
  obtain ⟨parting, w₁, hstop, hadds, hparting, hpaired, hcard⟩ := h.stop
  obtain ⟨answer, attempt, own, w₂, hacquire, hadds', hattempt, hcard'⟩ := acquire_spec w₁ card
  have hafter := hpaired.attempt hadds' hattempt
  have hopened : w₁.opened = w.opened := hadds.opened
  rw [hopened] at hattempt
  rcases acquire_cases card w₁ with ⟨-, down, up, hok⟩ | ⟨-, e, herror⟩
  · rw [hacquire] at hok
    obtain rfl : answer = _ := hok
    refine ⟨.ok (), _, w₂, parting, attempt, own, ?_, hadds.trans hadds', hparting, hattempt,
      hafter, ?_, ?_⟩
    · simp only [VoiceLoop.start, hstop, hacquire, outcome]
    · simp [Except.isOk, Except.toBool, outcome]
    · simp only [VoiceLoop.start, hcard, hcard', Except.map, outcome]
  · rw [hacquire] at herror
    obtain rfl : answer = _ := herror
    refine ⟨.error e, {}, w₂, parting, attempt, own, ?_, hadds.trans hadds', hparting, hattempt,
      hafter, ?_, ?_⟩
    · simp only [VoiceLoop.start, hstop, hacquire]
    · simp [Except.isOk, Except.toBool]
    · simp only [VoiceLoop.start, hcard, hcard', Except.map]
      rfl

/-- What the loop has when it is dropped is closed. -/
theorem Paired.drop (h : Paired v w) : Paired {} (v.drop w).2 := by
  rcases h.shape with rfl | ⟨down, up, rfl⟩
  · exact h
  · refine h.part (((Adds.refl w).close down).close up) ?_ ?_
    · intro id hid hne
      have hne' : down ≠ up := fun heq => hne (congrArg some heq)
      refine ⟨[], ?_, by simp⟩
      rcases hid with hid | hid
      · obtain rfl := Option.some.inj hid
        simp [Note.tells, hne'.symm]
      · obtain rfl := Option.some.inj hid
        simp [Note.tells, hne']
    · intro id hdown hup
      have hdown' : down ≠ id := fun heq => hdown (congrArg some heq)
      have hup' : up ≠ id := fun heq => hup (congrArg some heq)
      simp [Note.tells, hdown', hup']

/-- Nothing that the loop is asked for separates its substreams, and the card sees no more of it
than without the record. -/
theorem Paired.call (h : Paired v w) (call : LoopCall) :
    Paired (v.call w call).1 (v.call w call).2 ∧
      (renamed w v).call w.card call =
        (renamed (v.call w call).2 (v.call w call).1, (v.call w call).2.card) := by
  cases call with
  | start card =>
    obtain ⟨answer, v', w', parting, attempt, own, hstart, -, -, -, hafter, -, hcard⟩ :=
      h.start card
    simp only [VoiceLoop.call, hstart, hcard]
    exact ⟨hafter, trivial⟩
  | stop =>
    obtain ⟨notes, w', hstop, -, -, hafter, hcard⟩ := h.stop
    simp only [VoiceLoop.call, hstop, hcard]
    exact ⟨hafter, rfl⟩

theorem paired_calls (c : σ) (earlier : List LoopCall) :
    let (v, w) := calls ({ card := c } : Watched σ) earlier
    Paired v w ∧ calls c earlier = (renamed w v, w.card) := by
  induction earlier using List.reverseRecOn with
  | nil => exact ⟨paired_start c, rfl⟩
  | append_singleton earlier last ih =>
    obtain ⟨hpaired, hcard⟩ := ih
    obtain ⟨hafter, hcard'⟩ := hpaired.call last
    rw [calls_concat, calls_concat, hcard]
    exact ⟨hafter, hcard'⟩

/-- **All or nothing**, whatever the card answers. Between the calls the loop has two substreams
that run, one in each direction, or none, and every other substream ever opened is closed. A
start parts from what the loop has before it opens anything, whatever the stops answer; it
succeeds if and only if both opens and both starts that it made did, and otherwise leaves
nothing open. Once the loop is dropped every substream is closed, each of them once. -/
theorem pair_all_or_nothing (c : σ) (earlier : List LoopCall) :
    let (v, w) := calls ({ card := c } : Watched σ) earlier
    Paired v w ∧ calls c earlier = (renamed w v, w.card) ∧
      (∀ card, ∃ parting attempt,
        let (answer, v', w') := v.start card w
        w'.record = w.record ++ parting ++ attempt ∧ Parting v parting ∧
          (answer.isOk = true ↔ ∃ down up, attempt =
            [.done down (.opened .downlink), .done up (.opened .uplink),
              .done down (.started true), .done up (.started true)]) ∧
          (answer.isOk = false ↔ ∃ n ∈ attempt, n.failed = true) ∧
          (answer.isOk = false → v' = {} ∧ Paired {} w') ∧
          ((calls c earlier).1.start card (calls c earlier).2).1 = answer) ∧
      (∃ parting, (v.stop w).2.record = w.record ++ parting ∧ Parting v parting) ∧
      Paired {} (v.drop w).2 := by
  obtain ⟨hpaired, hcard⟩ := paired_calls c earlier
  refine ⟨hpaired, hcard, ?_, ?_, hpaired.drop⟩
  · intro card
    obtain ⟨answer, v', w', parting, attempt, own, hstart, hadds, hparting, hattempt, hafter,
      hok, hcard'⟩ := hpaired.start card
    have herror : answer.isOk = false ↔ v' = {} := by
      rw [← Bool.not_eq_true, hok, not_not]
    refine ⟨parting, attempt, ?_⟩
    rw [hcard, hcard', hstart]
    refine ⟨?_, hparting, hok.trans hattempt.ne_empty_iff, herror.trans hattempt.eq_empty_iff,
      ?_, rfl⟩
    · rw [hadds.record, List.append_assoc]
    · intro hfailed
      obtain rfl := herror.1 hfailed
      exact ⟨rfl, hafter⟩
  · obtain ⟨parting, w', hstop, hadds, hparting, -, -⟩ := hpaired.stop
    refine ⟨parting, ?_, hparting⟩
    rw [hstop]
    exact hadds.record

/-- A card that opens no second uplink: the old pair goes before the new downlink comes, and that
one goes as well. -/
example :
    let card : ScriptedCard := { refuses := fun past call =>
      call = ⟨.acquire, .uplink⟩ && past.contains (.call call) }
    let (_, w) := calls ({ card } : Watched ScriptedCard) [.start 0, .start 0]
    w.record.drop 4 = [.done 0 (.stopped true), .done 0 .closed, .done 1 (.stopped true),
      .done 1 .closed, .done 2 (.opened .downlink), .refused .uplink, .done 2 .closed] := by
  decide +kernel

end VoiceLoop

end HandsetAudio
