import HandsetAudio.Proofs.Pcm.Reads
import HandsetAudio.Proofs.Pcm.Ring
import HandsetAudio.Proofs.Pcm.SoftCard
import Mathlib.Data.List.DropRight

/-!
# The queues of the software card

A write queues behind what is queued already and keeps the newest frames that fit; a read takes from
the front and pads with silence (`toList_enqueue`, `fst_dequeue`, `toList_dequeue`). For this a
substream needs a ring of its format, which every operation of the driver leaves it, and so does
everybody who has a hand on the card (`Handling`, `Evolves`). A use is about one substream, if it is
about any, and leaves the others alone:

> `ringsFit_used`: however a card was used, each ring is one of its substream's format.

> `getElem?_use_of_ne`: no substream notices a use that is not about it.
-/

namespace HandsetAudio

/-! ## The newest of a list -/

section

variable {α : Type} {n : Nat}

end

/-- Dropping what is too much makes room for the rest. -/
theorem min_room {new q n : Nat} (hnew : new ≤ n) (hq : q ≤ n) :
    min new (n - (q - min (new - (n - q)) q)) = new := by
  refine Nat.min_eq_left ?_
  rcases Nat.le_total (new - (n - q)) q with hsome | hall
  · rw [Nat.min_eq_left hsome]
    omega
  · rw [Nat.min_eq_right hall]
    omega

namespace Substream

variable {s : Substream}

/-- The ring of a substream is one of its format, and sound if a word can tell its memory. -/
structure Fits (s : Substream) : Prop where
  valid : s.ring.Addressable → s.ring.Valid
  channels_eq : s.ring.channels = max s.config.channels 1
  capacity_eq : s.ring.capacity = s.config.bufferFrames

/-! ## Queueing and taking -/

/-- How many frames are put into the ring when samples are queued. -/
def enqueued (s : Substream) (samples : List Sample) : Nat :=
  min (samples.length / s.ring.channels) s.ring.capacity

/-- A ring that has room for the newest samples has it for all of them. -/
theorem fst_push_makeRoom (h : s.ring.Valid) (samples : List Sample) :
    ((s.makeRoom samples).2.push (s.makeRoom samples).1).1 = s.enqueued samples := by
  have hbound : s.ring.toList.length ≤ s.ring.capacity := h.length_toList ▸ Nat.min_le_right ..
  have hfree : s.ring.availableWrite = s.ring.capacity - s.ring.toList.length := by
    rw [h.length_toList]
    rfl
  have hframes : (s.makeRoom samples).1.length / s.ring.channels =
      samples.length / s.ring.channels - (samples.length / s.ring.channels - s.ring.capacity) := by
    have hdrop := congrArg List.length (Sample.drop_wholeFrames samples h.channels_pos
      (samples.length / s.ring.channels - s.ring.capacity))
    rw [List.length_drop, Sample.length_wholeFrames, Sample.length_wholeFrames] at hdrop
    exact hdrop.symm
  set surplus := (s.makeRoom samples).1.length / s.ring.channels - s.ring.availableWrite
  have hleft := Ring.toList_discard h surplus
  have hpush := Ring.fst_push (h.discard surplus) (s.makeRoom samples).1
  rw [hleft, Ring.fst_discard h, List.length_drop] at hpush
  refine hpush.trans ?_
  show min ((s.makeRoom samples).1.length / s.ring.channels) (s.ring.capacity - _) = _
  simp only [surplus, hframes, hfree, Nat.sub_sub_eq_min]
  exact min_room (Nat.min_le_right ..) hbound

section

variable (h : s.ring.Valid) (samples : List Sample) (hturn : s.ring.popped ≤ s.ring.pushed)
  (hroom : s.ring.pushed + s.enqueued samples < 2 ^ 64)

include h

/-- As many frames are pushed as are queued, until the words run out. -/
theorem pushed_enqueue (hroom : s.ring.pushed + s.enqueued samples < 2 ^ 64) :
    (s.enqueue samples).ring.pushed = s.ring.pushed + s.enqueued samples := by
  have hpushed : (s.enqueue samples).ring.pushed =
      word (s.ring.pushed + ((s.makeRoom samples).2.push (s.makeRoom samples).1).1) := rfl
  rw [hpushed, fst_push_makeRoom h, word_of_lt hroom]

include hturn

/-- No more frames are dropped than were pushed. -/
theorem popped_makeRoom : (s.makeRoom samples).2.popped ≤ s.ring.pushed := by
  have hread := h.availableRead_eq
  have hcount : ((s.ring.discard ((s.makeRoom samples).1.length / s.ring.channels -
      s.ring.availableWrite))).1 ≤ s.ring.availableRead := Nat.min_le_right ..
  exact (h.popped_skip hcount).le.trans (by omega)

include hroom

/-- No more frames are popped than were pushed. -/
theorem popped_enqueue : (s.enqueue samples).ring.popped ≤ (s.enqueue samples).ring.pushed := by
  rw [pushed_enqueue h samples hroom]
  exact Nat.le_trans (popped_makeRoom h samples hturn) (Nat.le_add_right ..)

end

/-- **The oldest frames are taken, and behind them silence.** -/
theorem fst_dequeue (h : s.ring.Valid) (n : Nat) :
    (s.dequeue (n * s.ring.channels)).1 = (s.ring.toList.take n ++
      List.replicate (n - s.ring.toList.length) (List.replicate s.ring.channels 0)).flatten := by
  have hout := Ring.out_pop h (List.replicate (n * s.ring.channels) 0)
  rw [Ring.fst_pop h, List.length_replicate, Nat.mul_div_cancel _ h.channels_pos,
    ← List.take_eq_take_min, List.drop_replicate, ← Nat.sub_mul] at hout
  have hsilence : n - min n s.ring.toList.length = n - s.ring.toList.length := by omega
  rw [List.flatten_append, List.flatten_replicate_replicate, ← hsilence]
  exact hout

/-- What is taken is taken from the front. -/
theorem toList_dequeue (h : s.ring.Valid) (n : Nat) :
    (s.dequeue (n * s.ring.channels)).2.ring.toList = s.ring.toList.drop n := by
  have hpop := Ring.toList_pop h (List.replicate (n * s.ring.channels) 0)
  rw [Ring.fst_pop h, List.length_replicate, Nat.mul_div_cancel _ h.channels_pos] at hpop
  refine hpop.trans ?_
  rcases Nat.le_or_le n s.ring.toList.length with hsome | hall
  · rw [Nat.min_eq_left hsome]
  · rw [Nat.min_eq_right hall, List.drop_length, List.drop_of_length_le hall]

/-- Frames and silence taken in two goes. -/
theorem take_add_silence {α : Type} (q : List α) (z : α) (m n : Nat) :
    q.take (m + n) ++ List.replicate (m + n - q.length) z =
      (q.take m ++ List.replicate (m - q.length) z) ++
        ((q.drop m).take n ++ List.replicate (n - (q.drop m).length) z) := by
  rw [List.length_drop]
  rcases Nat.le_or_le m q.length with hsome | hall
  · have hnone : m - q.length = 0 := by omega
    have hrest : m + n - q.length = n - (q.length - m) := by omega
    rw [hnone, hrest, List.replicate_zero, List.append_nil, ← List.append_assoc, ← List.take_add]
  · have hboth : m + n - q.length = m - q.length + (n - (q.length - m)) := by omega
    rw [List.take_of_length_le (by omega), List.take_of_length_le hall, List.drop_of_length_le hall,
      hboth, List.replicate_add, List.take_nil, List.nil_append, List.append_assoc]

/-- Taking twice takes what once does. -/
theorem fst_dequeue_add (h : s.ring.Valid) (m n : Nat) :
    (s.dequeue ((m + n) * s.ring.channels)).1 = (s.dequeue (m * s.ring.channels)).1 ++
      ((s.dequeue (m * s.ring.channels)).2.dequeue (n * s.ring.channels)).1 := by
  have hrest := fst_dequeue (s := (s.dequeue (m * s.ring.channels)).2) (h.pop _) n
  rw [fst_dequeue h, fst_dequeue h, take_add_silence, List.flatten_append]
  rw [toList_dequeue h] at hrest
  exact congrArg _ hrest.symm

/-- Taking in two goes is taking at once. -/
theorem ring_dequeue_add (h : s.ring.Valid) (m n : Nat) :
    ((s.dequeue (m * s.ring.channels)).2.dequeue (n * s.ring.channels)).2.ring =
      (s.dequeue ((m + n) * s.ring.channels)).2.ring := by
  have hpop : ∀ k, (s.ring.pop (List.replicate (k * s.ring.channels) 0)).1 =
      min k s.ring.toList.length := fun k => by
    rw [Ring.fst_pop h, List.length_replicate, Nat.mul_div_cancel _ h.channels_pos]
  set first := s.ring.pop (List.replicate (m * s.ring.channels) 0) with hfirst
  have hrest : (first.2.2.pop (List.replicate (n * s.ring.channels) 0)).1 =
      min n (s.ring.toList.length - min m s.ring.toList.length) := by
    rw [Ring.fst_pop (h.pop _), List.length_replicate, Ring.toList_pop h, hpop, List.length_drop]
    exact congrArg (min · _) (Nat.mul_div_cancel n h.channels_pos)
  have hcount : first.1 + (first.2.2.pop (List.replicate (n * s.ring.channels) 0)).1 =
      (s.ring.pop (List.replicate ((m + n) * s.ring.channels) 0)).1 := by
    rw [hrest, hfirst, hpop, hpop]
    omega
  have hfirst' : first.1 ≤ s.ring.availableRead := Nat.min_le_right ..
  have hpopped : first.2.2.popped = s.ring.popped + first.1 := h.popped_skip hfirst'
  refine congrArg (fun n => ({ s.ring with popped := word n } : Ring)) ?_
  show first.2.2.popped + _ = s.ring.popped + _
  rw [hpopped, Nat.add_assoc]
  exact congrArg (s.ring.popped + ·) hcount

/-! ## What becomes of a substream -/

/-- A substream keeps its lane and its format; closed it stays closed, and a ring that fits goes on
to fit. -/
structure Becomes (s s' : Substream) : Prop where
  lane : s'.lane = s.lane
  config : s'.config = s.config
  live : s'.live = true → s.live = true
  fits : s.Fits → s'.Fits

variable {s' s'' : Substream}

theorem Becomes.refl (s : Substream) : s.Becomes s := ⟨rfl, rfl, fun h => h, fun h => h⟩

/-- What a substream keeps on the way, it keeps. -/
theorem Becomes.trans (h : s.Becomes s') (h' : s'.Becomes s'') : s.Becomes s'' :=
  ⟨h'.lane.trans h.lane, h'.config.trans h.config, fun hlive => h.live (h'.live hlive),
    fun hfits => h'.fits (h.fits hfits)⟩

/-- Only what runs and what is queued changes. -/
theorem becomes_with {ring : Ring} (hvalid : s.ring.Valid → ring.Valid)
    (hchannels : ring.channels = s.ring.channels) (hcapacity : ring.capacity = s.ring.capacity)
    (hshared : ring.shared = s.ring.shared) (running : Bool) :
    s.Becomes { s with ring, running } := by
  refine ⟨rfl, rfl, fun h => h, fun h => ⟨fun haddressable => hvalid (h.valid ?_), ?_, ?_⟩⟩
  · unfold Ring.Addressable at haddressable ⊢
    rwa [← hchannels, ← hcapacity, ← hshared]
  · exact hchannels.trans h.channels_eq
  · exact hcapacity.trans h.capacity_eq

theorem becomes_closed (s : Substream) : s.Becomes { s with live := false } :=
  ⟨rfl, rfl, (fun h => nomatch h), fun h => ⟨h.valid, h.channels_eq, h.capacity_eq⟩⟩

end Substream

namespace SoftCard

/-! ## Whoever has a hand on the card -/

/-- What can be done with a card besides driving it. -/
inductive Handling where
  /-- Pushes to the ring of a substream, open or not. -/
  | push (id : SubstreamId) (samples : List Sample)
  | pop (id : SubstreamId) (out : List Sample)
  | discard (id : SubstreamId) (frames : Nat)
  | refuseLane (lane : Lane)
  | allowLane (lane : Lane)
  | limitMappings (bytes : Nat)
  | refuseTransfers (on : Bool)
  | takeEvents

/-- The card with another ring in a substream. -/
def withRing (c : SoftCard) (id : SubstreamId) (f : Ring → Ring) : SoftCard :=
  match c.substreams[id]? with
  | none => c
  | some s => c.put id { s with ring := f s.ring }

/-- The card after it was handled. -/
def handle (c : SoftCard) : Handling → SoftCard
  | .push id samples => c.withRing id fun r => (r.push samples).2
  | .pop id out => c.withRing id fun r => (r.pop out).2.2
  | .discard id frames => c.withRing id fun r => (r.discard frames).2
  | .refuseLane lane => c.refuseLane lane
  | .allowLane lane => c.allowLane lane
  | .limitMappings bytes => c.limitMappings bytes
  | .refuseTransfers on => c.refuseTransfers on
  | .takeEvents => c.takeEvents.2

/-- What a card is used for: the driver's operations, and to be handled. -/
inductive Use where
  | acquire (card : Nat) (lane : Lane) (flags : PcmFlags) (config : PcmConfig)
  | start (id : SubstreamId)
  | stop (id : SubstreamId)
  | write (id : SubstreamId) (bytes : List UInt8)
  | read (id : SubstreamId) (length : Nat)
  | close (id : SubstreamId)
  | handle (h : Handling)

/-- The substream that a use is about, if it is about one. -/
def Use.about? : Use → Option SubstreamId
  | .start id | .stop id | .write id _ | .read id _ | .close id => some id
  | .handle (.push id _) | .handle (.pop id _) | .handle (.discard id _) => some id
  | .acquire .. | .handle _ => none

/-- The card after it was used. -/
def use (c : SoftCard) : Use → SoftCard
  | .acquire card lane flags config => (PcmDriver.acquire card lane flags config c).2
  | .start id => (PcmDriver.start id c).2
  | .stop id => (PcmDriver.stop id c).2
  | .write id bytes => (PcmDriver.write id bytes c).2
  | .read id length => (PcmDriver.read id length c).2
  | .close id => PcmDriver.close id c
  | .handle h => c.handle h

/-- A new card after it was used. -/
def used (uses : List Use) : SoftCard := uses.foldl use {}

/-! ## What a use leaves -/

/-- Substreams keep their number and become what they may become; new ones have an empty ring of
their format, and a lane and a format that `Opens` tells of. -/
structure Evolves (Opens : Lane → PcmConfig → Prop) (c c' : SoftCard) : Prop where
  old {id : SubstreamId} {s : Substream} (h : c.substreams[id]? = some s) :
    ∃ s', c'.substreams[id]? = some s' ∧ s.Becomes s'
  new {id : SubstreamId} {s' : Substream} (h : c'.substreams[id]? = some s')
    (hid : c.substreams[id]? = none) : s'.Fits ∧ Opens s'.lane s'.config

/-- All rings are of their substream's format. -/
def RingsFit (c : SoftCard) : Prop :=
  ∀ ⦃id : SubstreamId⦄ ⦃s : Substream⦄, c.substreams[id]? = some s → s.Fits

variable {Opens : Lane → PcmConfig → Prop} {c c' c'' : SoftCard} {id : SubstreamId} {s : Substream}

theorem Evolves.of_substreams (h : c'.substreams = c.substreams) : c.Evolves Opens c' where
  old {id s} hs := ⟨s, by rw [h, hs], .refl s⟩
  new {id s'} hs hid := by
    rw [h, hid] at hs
    cases hs

theorem Evolves.refl (c : SoftCard) : c.Evolves Opens c := .of_substreams rfl

/-- A substream is new, or one that there was. -/
theorem Evolves.cases (h : c.Evolves Opens c') {s' : Substream}
    (hs' : c'.substreams[id]? = some s') :
    (∃ s, c.substreams[id]? = some s ∧ s.Becomes s') ∨ s'.Fits ∧ Opens s'.lane s'.config := by
  cases hs : c.substreams[id]? with
  | none => exact .inr (h.new hs' hs)
  | some s =>
    obtain ⟨t, ht, hbecomes⟩ := h.old hs
    obtain rfl := Option.some.inj (ht.symm.trans hs')
    exact .inl ⟨s, rfl, hbecomes⟩

theorem Evolves.trans (h : c.Evolves Opens c') (h' : c'.Evolves Opens c'') :
    c.Evolves Opens c'' where
  old {id s} hs := by
    obtain ⟨s', hs', hbecomes⟩ := h.old hs
    obtain ⟨s'', hs'', hbecomes'⟩ := h'.old hs'
    exact ⟨s'', hs'', hbecomes.trans hbecomes'⟩
  new {id s''} hs'' hid := by
    rcases h'.cases hs'' with ⟨s', hs', hbecomes⟩ | hnew
    · obtain ⟨hfits, hopens⟩ := h.new hs' hid
      rw [hbecomes.lane, hbecomes.config]
      exact ⟨hbecomes.fits hfits, hopens⟩
    · exact hnew

/-- Rings fit their substreams as long as they evolve. -/
theorem RingsFit.evolves (h : c.RingsFit) (hev : c.Evolves Opens c') : c'.RingsFit := by
  intro id s' hs'
  rcases hev.cases hs' with ⟨s, hs, hbecomes⟩ | ⟨hfits, -⟩
  · exact hbecomes.fits (h hs)
  · exact hfits

theorem evolves_put (hs : c.substreams[id]? = some s) {s' : Substream} (h : s.Becomes s') :
    c.Evolves Opens (c.put id s') where
  old {id' t} ht := by
    show ∃ t', (c.substreams.set id s')[id']? = some t' ∧ _
    by_cases hid : id = id'
    · subst hid
      obtain rfl := Option.some.inj (hs.symm.trans ht)
      exact ⟨s', List.getElem?_set_self (List.getElem?_eq_some_iff.1 hs).1, h⟩
    · exact ⟨t, by rw [List.getElem?_set_ne hid, ht], .refl t⟩
  new {id' t} ht hid := by
    have hlt := (List.getElem?_eq_some_iff.1 ht).1
    rw [show (c.put id s').substreams.length = c.substreams.length from List.length_set] at hlt
    exact absurd hlt (Nat.not_lt.2 (List.getElem?_eq_none_iff.1 hid))

theorem evolves_withRing (id : SubstreamId) {f : Ring → Ring}
    (hf : ∀ r : Ring, (r.Valid → (f r).Valid) ∧ (f r).channels = r.channels ∧
      (f r).capacity = r.capacity ∧ (f r).shared = r.shared) :
    c.Evolves Opens (c.withRing id f) := by
  unfold withRing
  split
  next => exact .refl c
  next s hs =>
    obtain ⟨hvalid, hchannels, hcapacity, hshared⟩ := hf s.ring
    exact evolves_put hs (Substream.becomes_with hvalid hchannels hcapacity hshared s.running)

/-- What is done to a card from outside leaves every substream what it was opened as. -/
theorem evolves_handle (c : SoftCard) (h : Handling) : c.Evolves Opens (c.handle h) := by
  cases h with
  | push id samples => exact evolves_withRing id fun r => ⟨fun h => h.push samples, rfl, rfl, rfl⟩
  | pop id out => exact evolves_withRing id fun r => ⟨fun h => h.pop out, rfl, rfl, rfl⟩
  | discard id frames =>
    exact evolves_withRing id fun r => ⟨fun h => h.discard frames, rfl, rfl, rfl⟩
  | refuseLane | allowLane | limitMappings | refuseTransfers | takeEvents =>
    exact .of_substreams rfl

/-- A substream that is opened stands behind the others, with a ring that fits. -/
theorem evolves_acquire (card : Nat) {lane : Lane} (flags : PcmFlags) {config : PcmConfig}
    (c : SoftCard) (hopens : Opens lane config) :
    c.Evolves Opens (PcmDriver.acquire card lane flags config c).2 := by
  rcases acquire_cases card lane flags config c with ⟨-, hacquire⟩ | ⟨-, hacquire⟩
  · rw [hacquire]
    exact .refl c
  · rw [hacquire]
    refine ⟨fun {id s} hs => ⟨s, ?_, .refl s⟩, fun {id s'} hs' hid => ?_⟩
    · exact (List.getElem?_append_left (List.getElem?_eq_some_iff.1 hs).1).trans hs
    · have hlen := List.getElem?_eq_none_iff.1 hid
      have hlast := (List.getElem?_append_right hlen).symm.trans hs'
      obtain rfl := List.mem_singleton.1 (List.mem_of_getElem? hlast)
      exact ⟨⟨Ring.valid_empty, rfl, rfl⟩, hopens⟩

theorem evolves_start (id : SubstreamId) (c : SoftCard) :
    c.Evolves Opens (PcmDriver.start id c).2 := by
  simp only [PcmDriver.start, start]
  split
  next => exact .refl c
  next s hs =>
    exact (evolves_put hs (Substream.becomes_with (fun h => h) rfl rfl rfl true)).trans
      (.of_substreams rfl)

theorem evolves_stop (id : SubstreamId) (c : SoftCard) :
    c.Evolves Opens (PcmDriver.stop id c).2 := by
  simp only [PcmDriver.stop, stop]
  split
  next => exact .refl c
  next s hs =>
    exact (evolves_put hs (Substream.becomes_with (fun h => h) rfl rfl rfl false)).trans
      (.of_substreams rfl)

theorem evolves_close (id : SubstreamId) (c : SoftCard) :
    c.Evolves Opens (PcmDriver.close id c) := by
  simp only [PcmDriver.close, close]
  split
  next => exact .refl c
  next s hs =>
    exact (evolves_put hs s.becomes_closed).trans (.of_substreams rfl)

/-! ## Transfers -/

/-- The card after a transfer of `s` that went well: the substream runs and has the ring, and if it
was stopped its start is on record. -/
def transferred (c : SoftCard) (id : SubstreamId) (s : Substream) (ring : Ring) : SoftCard :=
  { c with
    substreams := c.substreams.set id { s with running := true, ring }
    events := if s.running then c.events else c.events ++ [⟨.started, s.lane⟩] }

theorem ensureRunning_put (c : SoftCard) (id : SubstreamId) (s : Substream) (ring : Ring) :
    (c.ensureRunning s).put id { s with running := true, ring } = c.transferred id s ring := by
  unfold ensureRunning transferred
  split <;> rfl

theorem evolves_transferred (hs : c.substreams[id]? = some s) {ring : Ring}
    (hbecomes : s.Becomes { s with ring, running := true }) :
    c.Evolves Opens (c.transferred id s ring) :=
  (evolves_put hs hbecomes).trans (.of_substreams rfl)

theorem becomes_enqueue (s : Substream) (samples : List Sample) :
    s.Becomes { s with ring := (s.enqueue samples).ring, running := true } :=
  Substream.becomes_with (fun h => (h.discard _).push _) rfl rfl rfl true

theorem becomes_dequeue (s : Substream) (n : Nat) :
    s.Becomes { s with ring := (s.dequeue n).2.ring, running := true } :=
  Substream.becomes_with (fun h => h.pop _) rfl rfl rfl true

/-- A write queues in the ring of its own substream. -/
theorem evolves_write (id : SubstreamId) (bytes : List UInt8) (c : SoftCard) :
    c.Evolves Opens (PcmDriver.write id bytes c).2 := by
  rcases write_cases id bytes c with ⟨e, hwrite⟩ | ⟨s, hs, -, -, hwrite⟩
  · rw [hwrite]
    exact .refl c
  · rw [hwrite]
    exact (ensureRunning_put c id s _).symm ▸
      evolves_transferred hs (becomes_enqueue s (Sample.ofBytes bytes))

/-- A read takes from the ring of its own substream. -/
theorem evolves_read (id : SubstreamId) (length : Nat) (c : SoftCard) :
    c.Evolves Opens (PcmDriver.read id length c).2 := by
  rcases read_cases id length c with ⟨e, hread⟩ | ⟨s, hs, -, -, hread⟩
  · rw [hread]
    exact .refl c
  · rw [hread]
    exact (ensureRunning_put c id s _).symm ▸
      evolves_transferred hs (becomes_dequeue s (length / 2))

/-- A use opens what may be opened at most. -/
theorem evolves_use (c : SoftCard) (u : Use) : c.Evolves (fun _ _ => True) (c.use u) := by
  cases u with
  | acquire card lane flags config => exact evolves_acquire card flags c trivial
  | start id => exact evolves_start id c
  | stop id => exact evolves_stop id c
  | write id bytes => exact evolves_write id bytes c
  | read id length => exact evolves_read id length c
  | close id => exact evolves_close id c
  | handle h => exact evolves_handle c h

/-- However a card was used, its rings fit. -/
theorem ringsFit_used (uses : List Use) : (used uses).RingsFit := by
  induction uses using List.reverseRecOn with
  | nil =>
    intro id s hs
    cases hs
  | append_singleton uses u ih =>
    rw [used, List.foldl_append]
    exact ih.evolves (evolves_use _ u)

/-! ## Other substreams -/

theorem getElem?_put_of_ne {other : SubstreamId} (hother : other ≠ id) (c : SoftCard)
    (t : Substream) : (c.put other t).substreams[id]? = c.substreams[id]? :=
  List.getElem?_set_ne hother

/-- What another substream is like after a transfer. -/
theorem getElem?_transfer_of_ne {other : SubstreamId} (hother : other ≠ id) (c : SoftCard)
    (s t : Substream) :
    ((c.ensureRunning s).put other t).substreams[id]? = c.substreams[id]? := by
  rw [getElem?_put_of_ne hother, substreams_ensureRunning]

theorem getElem?_withRing_of_ne {other : SubstreamId} (hother : other ≠ id) (c : SoftCard)
    (f : Ring → Ring) : (c.withRing other f).substreams[id]? = c.substreams[id]? := by
  unfold withRing
  split
  next => rfl
  next => exact getElem?_put_of_ne hother c _

/-- **No substream notices a use that is not about it.** -/
theorem getElem?_use_of_ne (c : SoftCard) {u : Use} (hs : c.substreams[id]? = some s)
    (hother : u.about? ≠ some id) : (c.use u).substreams[id]? = some s := by
  rw [← hs]
  have hne : ∀ {other}, u.about? = some other → other ≠ id := by
    rintro other habout rfl
    exact hother habout
  cases u with
  | acquire card lane flags config =>
    have hlt := (List.getElem?_eq_some_iff.1 hs).1
    rw [use]
    rcases acquire_cases card lane flags config c with ⟨-, hacquire⟩ | ⟨-, hacquire⟩
    · rw [hacquire]
    · rw [hacquire]
      exact List.getElem?_append_left hlt
  | start other =>
    simp only [use, PcmDriver.start, start]
    split
    next => rfl
    next => exact getElem?_put_of_ne (hne rfl) c _
  | stop other =>
    simp only [use, PcmDriver.stop, stop]
    split
    next => rfl
    next => exact getElem?_put_of_ne (hne rfl) c _
  | write other bytes =>
    rw [use]
    rcases write_cases other bytes c with ⟨e, hwrite⟩ | ⟨t, -, -, -, hwrite⟩
    · rw [hwrite]
    · rw [hwrite]
      exact getElem?_transfer_of_ne (hne rfl) c t _
  | read other length =>
    rw [use]
    rcases read_cases other length c with ⟨e, hread⟩ | ⟨t, -, -, -, hread⟩
    · rw [hread]
    · rw [hread]
      exact getElem?_transfer_of_ne (hne rfl) c t _
  | close other =>
    simp only [use, PcmDriver.close, close]
    split
    next => rfl
    next => exact getElem?_put_of_ne (hne rfl) c _
  | handle h =>
    cases h with
    | push other samples => exact getElem?_withRing_of_ne (hne rfl) c _
    | pop other out => exact getElem?_withRing_of_ne (hne rfl) c _
    | discard other frames => exact getElem?_withRing_of_ne (hne rfl) c _
    | refuseLane | allowLane | limitMappings | refuseTransfers | takeEvents => rfl

end SoftCard

end HandsetAudio
