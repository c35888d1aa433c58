import HandsetAudio.Proofs.Pcm.Bookkeeping

/-!
# The law of transfers

What a transfer does to the queue of a substream is the same however the card was used before, as
long as the counters of its ring did not go around, which takes `2 ^ 64` frames. How many frames
were put into a ring can be told from the uses (`addedBy`); a use moves the counters accordingly
(`RingMove`), so that they count just these (`Counted`).

> `transfer_law`: transfers that go well queue and take the frames that they should and start a
> stopped substream once, no matter how they are split; the others change nothing.
-/

namespace HandsetAudio

namespace SoftCard

variable {c c' : SoftCard} {id : SubstreamId} {s s' : Substream}

/-! ## Transfers of one substream -/

/-- After a transfer the substream is the one that was transferred to. -/
theorem getElem?_transferred (hs : c.substreams[id]? = some s) (ring : Ring) :
    (c.transferred id s ring).substreams[id]? = some { s with running := true, ring } :=
  List.getElem?_set_self (List.getElem?_eq_some_iff.1 hs).1

/-- A running substream starts no more. -/
theorem transferred_transferred (c : SoftCard) (id : SubstreamId) (s : Substream) (r r' : Ring) :
    (c.transferred id s r).transferred id { s with running := true, ring := r } r' =
      c.transferred id s r' := by
  simp [transferred]

section

variable (hs : c.substreams[id]? = some s) (hchannels : 0 < s.config.channels)

include hs hchannels

theorem transfer_free {α : Type} {move : Substream → α × Substream} {length : Nat}
    (h : c.obstacle? s length = none) :
    c.transfer? id length move = some (.ok (move { s with running := true }).1,
      (c.ensureRunning s).put id (move { s with running := true }).2) := by
  have hframe : s.config.frameBytes ≠ 0 := Nat.mul_ne_zero (Nat.ne_of_gt hchannels) two_ne_zero
  unfold transfer?
  rw [hs]
  simp only [if_neg hframe, h]

theorem write_free {bytes : List UInt8} (h : c.obstacle? s bytes.length = none) :
    c.write? id bytes =
      some (.ok (), c.transferred id s (s.enqueue (Sample.ofBytes bytes)).ring) := by
  rw [← ensureRunning_put]
  exact transfer_free hs hchannels h

theorem read_free {length : Nat} (h : c.obstacle? s length = none) :
    c.read? id length = some (.ok (Sample.toBytes (s.dequeue (length / 2)).1),
      c.transferred id s (s.dequeue (length / 2)).2.ring) := by
  rw [← ensureRunning_put]
  exact transfer_free hs hchannels h

end

/-- What a call answers that does not stop the program. -/
theorem read_eq_of_read? {length : Nat} {answer : Except PcmError (List UInt8) × SoftCard}
    (h : c.read? id length = some answer) : PcmDriver.read id length c = answer :=
  congrArg c.orStopped h

theorem write_eq_of_write? {bytes : List UInt8} {answer : Except PcmError Unit × SoftCard}
    (h : c.write? id bytes = some answer) : PcmDriver.write id bytes c = answer :=
  congrArg c.orStopped h

/-- A transfer of whole frames takes place unless transfers are refused. -/
theorem obstacle?_eq_none (hfree : c.refusesTransfers = false) {length : Nat}
    (h : length % s.config.frameBytes = 0) : c.obstacle? s length = none := by
  rw [obstacle?, if_neg (not_not_intro h), hfree]
  rfl

section

variable (hs : c.substreams[id]? = some s) (hfits : s.Fits) (hvalid : s.ring.Valid)
  (hchannels : 0 < s.config.channels)

include hfits hchannels

theorem channels_eq_of_pos : s.ring.channels = s.config.channels :=
  hfits.channels_eq.trans (Nat.max_eq_left hchannels)

include hs

theorem read_frames (n : Nat) (hfree : c.refusesTransfers = false) :
    c.read? id (n * s.config.frameBytes) =
      some (.ok (Sample.toBytes (s.dequeue (n * s.ring.channels)).1),
        c.transferred id s (s.dequeue (n * s.ring.channels)).2.ring) := by
  have hread := read_free hs hchannels
    (obstacle?_eq_none hfree (Nat.mul_mod_left n s.config.frameBytes))
  have hsamples : n * s.config.frameBytes / 2 = n * s.ring.channels := by
    rw [channels_eq_of_pos hfits hchannels, PcmConfig.frameBytes, sampleBytes, ← Nat.mul_assoc,
      Nat.mul_div_cancel _ Nat.zero_lt_two]
  rwa [hsamples] at hread

include hvalid

/-- Two reads take what one does, whatever went into the ring before. -/
theorem reads_add (m n : Nat) (hfree : c.refusesTransfers = false) :
    ∃ x y c' c'', c.read? id (m * s.config.frameBytes) = some (.ok x, c') ∧
      c'.read? id (n * s.config.frameBytes) = some (.ok y, c'') ∧
      c.read? id ((m + n) * s.config.frameBytes) = some (.ok (x ++ y), c'') := by
  set first := (s.dequeue (m * s.ring.channels)).2.ring
  set t : Substream := { s with running := true, ring := first }
  have ht : (c.transferred id s first).substreams[id]? = some t := getElem?_transferred hs first
  have htfits : t.Fits := (becomes_dequeue s (m * s.ring.channels)).fits hfits
  have hsecond := read_frames ht htfits hchannels n hfree
  have hboth := read_frames hs hfits hchannels (m + n) hfree
  rw [transferred_transferred] at hsecond
  rw [Substream.fst_dequeue_add hvalid, Sample.toBytes_append,
    ← Substream.ring_dequeue_add hvalid] at hboth
  exact ⟨_, _, _, _, read_frames hs hfits hchannels m hfree, hsecond, hboth⟩

end

/-- The frames that a use puts into the ring of a substream: what is pushed of them, or queued by a
write that goes well. -/
def added (c : SoftCard) (id : SubstreamId) (u : Use) : Nat :=
  match u, c.substreams[id]? with
  | .write id' bytes, some s =>
    if id' = id ∧ (write id bytes c).1.isOk then s.enqueued (Sample.ofBytes bytes) else 0
  | .handle (.push id' samples), some s => if id' = id then (s.ring.push samples).1 else 0
  | _, _ => 0

/-- Nothing is put into a ring that there is not. -/
theorem added_of_none (h : c.substreams[id]? = none) (u : Use) : c.added id u = 0 := by
  unfold added
  rw [h]
  split <;> first | rfl | (rename_i heq; cases heq)

/-- What is about another substream puts nothing into the ring. -/
theorem added_of_ne {u : Use} (hother : u.about? ≠ some id) : c.added id u = 0 := by
  unfold added
  split
  next id' bytes s hs => exact if_neg fun h => hother (congrArg some h.1)
  next id' samples s hs => exact if_neg fun h => hother (congrArg some h)
  next => rfl

/-- What a use can do to a ring, and how many frames it puts in. -/
inductive RingMove (r : Ring) : Nat → Ring → Prop
  | stay : RingMove r 0 r
  | skip {n : Nat} (h : n ≤ r.availableRead) : RingMove r 0 (r.skip n)
  | push (samples : List Sample) : RingMove r (r.push samples).1 (r.push samples).2
  | enqueue {s : Substream} (h : s.ring = r) (samples : List Sample) :
    RingMove r (s.enqueued samples) (s.enqueue samples).ring

/-- **All that a use can do to the ring of a substream.** -/
theorem ringMove_use (hs : c.substreams[id]? = some s) (u : Use) :
    ∃ s', (c.use u).substreams[id]? = some s' ∧ RingMove s.ring (c.added id u) s'.ring := by
  by_cases hother : u.about? = some id
  swap
  · exact ⟨s, getElem?_use_of_ne c hs hother, added_of_ne hother ▸ .stay⟩
  have hlt := (List.getElem?_eq_some_iff.1 hs).1
  have hput : ∀ t, (c.put id t).substreams[id]? = some t := fun t => List.getElem?_set_self hlt
  have htransfer : ∀ t, ((c.ensureRunning s).put id t).substreams[id]? = some t := fun t =>
    List.getElem?_set_self (by rwa [substreams_ensureRunning])
  cases u with
  | acquire => cases hother
  | start other =>
    obtain rfl := Option.some.inj hother
    refine ⟨{ s with running := true }, ?_, .stay⟩
    simp only [use, PcmDriver.start, start, hs]
    exact hput _
  | stop other =>
    obtain rfl := Option.some.inj hother
    refine ⟨{ s with running := false }, ?_, .stay⟩
    simp only [use, PcmDriver.stop, stop, hs]
    exact hput _
  | close other =>
    obtain rfl := Option.some.inj hother
    refine ⟨{ s with live := false }, ?_, .stay⟩
    simp only [use, PcmDriver.close, close, hs]
    exact hput _
  | write other bytes =>
    obtain rfl := Option.some.inj hother
    have hadded : ∀ answer c', PcmDriver.write other bytes c = (answer, c') →
        c.added other (.write other bytes) =
          if answer.isOk then s.enqueued (Sample.ofBytes bytes) else 0 := fun answer c' h => by
      have hanswer : (write other bytes c).1 = answer := congrArg Prod.fst h
      simp only [added, hs, hanswer, true_and]
    rw [use]
    rcases write_cases other bytes c with ⟨e, hwrite⟩ | ⟨t, ht, -, -, hwrite⟩
    · rw [hadded _ _ hwrite, hwrite]
      exact ⟨s, hs, .stay⟩
    · obtain rfl := Option.some.inj (hs.symm.trans ht)
      rw [hadded _ _ hwrite, hwrite]
      exact ⟨_, htransfer _, .enqueue rfl (Sample.ofBytes bytes)⟩
  | read other length =>
    obtain rfl := Option.some.inj hother
    rw [use]
    rcases read_cases other length c with ⟨e, hread⟩ | ⟨t, ht, -, -, hread⟩
    · rw [hread]
      exact ⟨s, hs, .stay⟩
    · obtain rfl := Option.some.inj (hs.symm.trans ht)
      rw [hread]
      exact ⟨_, htransfer _, .skip (Nat.min_le_right ..)⟩
  | handle h =>
    have hring : ∀ f, (c.withRing id f).substreams[id]? = some { s with ring := f s.ring } :=
      fun f => by
        unfold withRing
        rw [hs]
        exact hput _
    cases h with
    | push other samples =>
      obtain rfl := Option.some.inj hother
      refine ⟨_, hring _, ?_⟩
      simp only [added, hs, if_true]
      exact .push samples
    | pop other out =>
      obtain rfl := Option.some.inj hother
      exact ⟨_, hring _, .skip (Nat.min_le_right ..)⟩
    | discard other frames =>
      obtain rfl := Option.some.inj hother
      exact ⟨_, hring _, .skip (Nat.min_le_right ..)⟩
    | refuseLane | allowLane | limitMappings | refuseTransfers | takeEvents => cases hother

/-- There are as many substreams as before, unless one was opened. -/
theorem length_use (c : SoftCard) (u : Use) :
    (c.use u).substreams.length = c.substreams.length ∨
      ∃ lane config shared, c.use u =
        c.enlist lane config (.empty config.bufferFrames config.channels shared) := by
  have hroll : ∀ c : SoftCard, c.roll.length = c.substreams.length := fun _ => List.length_map _
  rw [← hroll, ← hroll]
  rcases c.booking_use u with ⟨lane, hopened⟩ | ⟨id, lane, live, -, -, hclosed⟩ | ⟨-, -, hkept⟩
  · cases u with
    | acquire card lane flags config =>
      rw [use]
      rcases acquire_cases card lane flags config c with ⟨-, hacquire⟩ | ⟨-, hacquire⟩
      · rw [hacquire]
        exact .inl rfl
      · rw [hacquire]
        exact .inr ⟨lane, config, _, rfl⟩
    | _ => cases hopened
  · rw [hclosed, List.length_set]
    exact .inl rfl
  · rw [hkept.roll]
    exact .inl rfl

/-- A substream that was not there before has an empty ring. -/
theorem fresh_use (hnone : c.substreams[id]? = none) (u : Use) {s' : Substream}
    (hs' : (c.use u).substreams[id]? = some s') : s'.ring.pushed = 0 ∧ s'.ring.popped = 0 := by
  have hlt := (List.getElem?_eq_some_iff.1 hs').1
  have hle := List.getElem?_eq_none_iff.1 hnone
  rcases length_use c u with hlength | ⟨lane, config, shared, hopened⟩
  · omega
  · rw [hopened] at hs'
    have hlast := (List.getElem?_append_right hle).symm.trans hs'
    obtain rfl := List.mem_singleton.1 (List.mem_of_getElem? hlast)
    exact ⟨rfl, rfl⟩

/-- The counters of a ring tell how many frames were put into it. -/
structure Counted (c : SoftCard) (id : SubstreamId) (total : Nat) : Prop where
  ring {s : Substream} (hs : c.substreams[id]? = some s) (haddressable : s.ring.Addressable) :
    s.ring.pushed = total ∧ s.ring.popped ≤ s.ring.pushed
  fresh (h : c.substreams[id]? = none) : total = 0

theorem RingMove.addressable {r r' : Ring} {n : Nat} (h : RingMove r n r') :
    r'.Addressable ↔ r.Addressable := by
  cases h with
  | @enqueue s hs _ =>
    subst hs
    exact .rfl
  | _ => exact .rfl

/-- A move counts what it puts in. -/
theorem RingMove.counted {r r' : Ring} {n total : Nat} (h : RingMove r n r') (hvalid : r.Valid)
    (hfew : total + n < 2 ^ 64) (hcounted : r.pushed = total ∧ r.popped ≤ r.pushed) :
    r'.pushed = total + n ∧ r'.popped ≤ r'.pushed := by
  obtain ⟨rfl, hturn⟩ := hcounted
  cases h with
  | stay => exact ⟨rfl, hturn⟩
  | @skip k hk =>
    have hread := hvalid.availableRead_eq
    have hpopped := hvalid.popped_skip hk
    refine ⟨rfl, ?_⟩
    show (r.skip k).popped ≤ r.pushed
    omega
  | push samples =>
    have hpushed : (r.push samples).2.pushed = r.pushed + (r.push samples).1 := word_of_lt hfew
    exact ⟨hpushed, hpushed ▸ Nat.le_trans hturn (Nat.le_add_right ..)⟩
  | @enqueue s hs samples =>
    subst hs
    exact ⟨Substream.pushed_enqueue hvalid samples hfew,
      Substream.popped_enqueue hvalid samples hturn hfew⟩

/-- A use counts what it puts in. -/
theorem Counted.use {total : Nat} (h : c.Counted id total) (hfit : c.RingsFit) (u : Use)
    (hfew : total + c.added id u < 2 ^ 64) : (c.use u).Counted id (total + c.added id u) := by
  cases hs : c.substreams[id]? with
  | none =>
    rw [added_of_none hs, h.fresh hs]
    refine ⟨fun hs' _ => ?_, fun _ => rfl⟩
    obtain ⟨hpushed, hpopped⟩ := fresh_use hs u hs'
    exact ⟨hpushed, Nat.le_of_eq (hpopped.trans hpushed.symm)⟩
  | some s =>
    obtain ⟨s', hs', hmove⟩ := ringMove_use hs u
    refine ⟨fun {t} ht haddressable => ?_, fun hnone => nomatch hs'.symm.trans hnone⟩
    obtain rfl := Option.some.inj (hs'.symm.trans ht)
    have hsame := hmove.addressable.1 haddressable
    exact hmove.counted ((hfit hs).valid hsame) hfew (h.ring hs hsame)

end SoftCard

end HandsetAudio
