import HandsetAudio.Proofs.Logs
import HandsetAudio.Proofs.Pcm.Directions
import HandsetAudio.Proofs.Pcm.Queues

/-!
# The books of the software card

Several substreams can be open on one lane, and each belongs to whoever opened it. The card does
not know whose they are: it counts lanes in and out, keeps a record, and has a ring at hand for each
lane, which it replaces whenever one is opened there. `deeds` is what was done with a card and what
was opened by it; `StillOpen` and `Latest` are read off that and look into no card.

> `booking_use`: all that a use can do to the books.

> `books_agree`: as substreams are closed once, the count of a lane, the record and what is still
> open there tell the same, and the ring at hand for a lane is that of the latest substream. An open
> that fails and a call that stops the program leave the card as it is, and no substream notices
> what is done with another.
-/

namespace HandsetAudio

namespace SoftCard

/-! ## What was done with a card -/

/-- The substream that a use closes. -/
def Use.closes? : Use → Option SubstreamId
  | .close id => some id
  | _ => none

/-- The substream that a use opens, with its lane. -/
def opened? (c : SoftCard) : Use → Option (Lane × SubstreamId)
  | .acquire card lane flags config =>
    match PcmDriver.acquire card lane flags config c with
    | (.ok id, _) => some (lane, id)
    | (.error _, _) => none
  | _ => none

/-- Only a close closes. -/
theorem Use.ne_close {u : Use} (h : u.closes? = none) (id : SubstreamId) : u ≠ .close id := by
  rintro rfl
  cases h

/-- A use, with the substream that it opened. -/
structure Deed where
  use : Use
  opened : Option (Lane × SubstreamId)

/-- What is done with a card, one use after the other. -/
def deeds (c : SoftCard) : List Use → List Deed
  | [] => []
  | u :: uses => ⟨u, c.opened? u⟩ :: (c.use u).deeds uses

/-- The substream was opened on the lane, and not closed since. -/
def StillOpen (history : List Deed) (lane : Lane) (id : SubstreamId) : Prop :=
  Since (·.opened = some (lane, id)) (·.use ≠ .close id) history

/-- The substream was opened on the lane, and none since. -/
def Latest (history : List Deed) (lane : Lane) (id : SubstreamId) : Prop :=
  Since (·.opened = some (lane, id)) (fun e => ∀ later, e.opened ≠ some (lane, later)) history

/-- A deed opens a substream, closes it, or leaves it as it was. -/
theorem stillOpen_concat {history : List Deed} {e : Deed} {lane : Lane} {id : SubstreamId} :
    StillOpen (history ++ [e]) lane id ↔
      e.opened = some (lane, id) ∨ StillOpen history lane id ∧ e.use ≠ .close id := since_concat

/-- What was opened last on a lane, after one more deed. -/
theorem latest_concat {history : List Deed} {e : Deed} {lane : Lane} {id : SubstreamId} :
    Latest (history ++ [e]) lane id ↔ e.opened = some (lane, id) ∨
      Latest history lane id ∧ ∀ later, e.opened ≠ some (lane, later) := since_concat

theorem deeds_concat (c : SoftCard) (uses : List Use) (u : Use) :
    c.deeds (uses ++ [u]) = c.deeds uses ++ [⟨u, (uses.foldl use c).opened? u⟩] := by
  induction uses generalizing c with
  | nil => rfl
  | cons u' uses ih =>
    rw [List.cons_append, deeds, ih]
    rfl

/-! ## The roll of substreams -/

/-- The lane of every substream, by number, and whether it is open. -/
def roll (c : SoftCard) : List (Lane × Bool) := c.substreams.map fun s => (s.lane, s.live)

/-- The lanes of the substreams, by number. -/
def lanes (c : SoftCard) : List Lane := c.roll.map Prod.fst

theorem lanes_eq (c : SoftCard) : c.lanes = c.substreams.map (·.lane) := List.map_map

theorem nextTurn_eq (c : SoftCard) (lane : Lane) : c.nextTurn lane = c.lanes.count lane := by
  rw [lanes_eq, List.count, List.countP_map]
  exact List.countP_congr fun s _ => by simp

variable {c c' c'' : SoftCard} {id : SubstreamId} {s s' : Substream}

/-- A ring at hand is that of the substream whose turn is kept. -/
theorem ring?_of_turn {lane : Lane} {live : Bool} (hknown : c.roll[id]? = some (lane, live))
    (hturn : c.rings.lookup lane = some ((c.lanes.take id).count lane)) :
    ∃ s, c.substreams[id]? = some s ∧ s.lane = lane ∧ c.ring? lane = some s.ring := by
  rw [roll, List.getElem?_map, Option.map_eq_some_iff] at hknown
  obtain ⟨s, hs, hentry⟩ := hknown
  obtain rfl := (Prod.mk.inj hentry).1
  have hcount : (c.lanes.take id).count s.lane =
      (c.substreams.take id).countP (·.lane = s.lane) := by
    rw [lanes_eq, ← List.map_take, List.count, List.countP_map]
    exact List.countP_congr fun t _ => by simp
  refine ⟨s, hs, rfl, ?_⟩
  rw [ring?_eq, hturn, Option.bind_some, hcount, getElem?_filter_countP hs (decide_eq_true rfl)]
  rfl

/-! ## What a use does to the books -/

/-- Nothing was opened or closed, by the substreams and by the count, and no ring is at hand for
another. -/
structure KeepsBooks (c c' : SoftCard) : Prop where
  roll : c'.roll = c.roll
  openLanes : c'.openLanes = c.openLanes
  rings : c'.rings = c.rings

theorem KeepsBooks.refl (c : SoftCard) : c.KeepsBooks c := ⟨rfl, rfl, rfl⟩

/-- Books that are kept on the way are kept. -/
theorem KeepsBooks.trans (h : c.KeepsBooks c') (h' : c'.KeepsBooks c'') : c.KeepsBooks c'' :=
  ⟨h'.roll.trans h.roll, h'.openLanes.trans h.openLanes, h'.rings.trans h.rings⟩

theorem keepsBooks_put (hs : c.substreams[id]? = some s) (hlane : s'.lane = s.lane)
    (hlive : s'.live = s.live) : c.KeepsBooks (c.put id s') :=
  ⟨map_set_of_eq hs (Prod.ext hlane hlive), rfl, rfl⟩

theorem keepsBooks_ensureRunning (c : SoftCard) (s : Substream) :
    c.KeepsBooks (c.ensureRunning s) := by
  unfold ensureRunning
  split <;> exact ⟨rfl, rfl, rfl⟩

theorem keepsBooks_withRing (c : SoftCard) (id : SubstreamId) (f : Ring → Ring) :
    c.KeepsBooks (c.withRing id f) := by
  unfold withRing
  split
  next => exact .refl c
  next s hs => exact keepsBooks_put hs rfl rfl

theorem keepsBooks_record (c : SoftCard) (action : PcmAction) (lane : Lane) :
    c.KeepsBooks (c.record action lane) := ⟨rfl, rfl, rfl⟩

/-- A substream as it is after a transfer. -/
theorem keepsBooks_transfer (hs : c.substreams[id]? = some s) (hlane : s'.lane = s.lane)
    (hlive : s'.live = s.live) : c.KeepsBooks ((c.ensureRunning s).put id s') := by
  rw [← substreams_ensureRunning c s] at hs
  exact (keepsBooks_ensureRunning c s).trans (keepsBooks_put hs hlane hlive)

theorem keepsBooks_start (id : SubstreamId) (c : SoftCard) :
    c.KeepsBooks (PcmDriver.start id c).2 := by
  simp only [PcmDriver.start, start]
  split
  next => exact .refl c
  next s hs =>
    have hput : c.KeepsBooks (c.put id { s with running := true }) := keepsBooks_put hs rfl rfl
    exact hput.trans (keepsBooks_record _ _ s.lane)

theorem keepsBooks_stop (id : SubstreamId) (c : SoftCard) :
    c.KeepsBooks (PcmDriver.stop id c).2 := by
  simp only [PcmDriver.stop, stop]
  split
  next => exact .refl c
  next s hs =>
    have hput : c.KeepsBooks (c.put id { s with running := false }) := keepsBooks_put hs rfl rfl
    exact hput.trans (keepsBooks_record _ _ s.lane)

/-- A write opens and closes nothing. -/
theorem keepsBooks_write (id : SubstreamId) (bytes : List UInt8) (c : SoftCard) :
    c.KeepsBooks (PcmDriver.write id bytes c).2 := by
  rcases write_cases id bytes c with ⟨e, hwrite⟩ | ⟨s, hs, -, -, hwrite⟩
  · rw [hwrite]
    exact .refl c
  · rw [hwrite]
    exact keepsBooks_transfer hs rfl rfl

/-- A read opens and closes nothing. -/
theorem keepsBooks_read (id : SubstreamId) (length : Nat) (c : SoftCard) :
    c.KeepsBooks (PcmDriver.read id length c).2 := by
  rcases read_cases id length c with ⟨e, hread⟩ | ⟨s, hs, -, -, hread⟩
  · rw [hread]
    exact .refl c
  · rw [hread]
    exact keepsBooks_transfer hs rfl rfl

theorem keepsBooks_handle (c : SoftCard) (h : Handling) : c.KeepsBooks (c.handle h) := by
  cases h with
  | push id samples => exact keepsBooks_withRing c id fun r => (r.push samples).2
  | pop id out => exact keepsBooks_withRing c id fun r => (r.pop out).2.2
  | discard id frames => exact keepsBooks_withRing c id fun r => (r.discard frames).2
  | refuseLane | allowLane | limitMappings | refuseTransfers | takeEvents => exact ⟨rfl, rfl, rfl⟩

/-- Handling a card goes on no record, but who takes the record leaves an empty one. -/
theorem events_handle (c : SoftCard) {h : Handling} (hkept : h ≠ .takeEvents) :
    (c.handle h).events = c.events := by
  have hring : ∀ id f, (c.withRing id f).events = c.events := fun id f => by
    unfold withRing
    split <;> rfl
  cases h with
  | push id samples => exact hring id fun r => (r.push samples).2
  | pop id out => exact hring id fun r => (r.pop out).2.2
  | discard id frames => exact hring id fun r => (r.discard frames).2
  | refuseLane | allowLane | limitMappings | refuseTransfers => rfl
  | takeEvents => exact absurd rfl hkept

/-- What a use does to the books: it opens the next substream, it closes one that there is, or it
does neither. -/
inductive Booking (c : SoftCard) (u : Use) (c' : SoftCard) : Prop
  | opens (lane : Lane) (opened : c.opened? u = some (lane, c.roll.length))
      (other : ∀ id, u ≠ .close id) (roll : c'.roll = c.roll ++ [(lane, true)])
      (openLanes : c'.openLanes = lane :: c.openLanes)
      (rings : c'.rings = (lane, c.lanes.count lane) :: c.rings.filter (·.1 ≠ lane))
      (events : c'.events = c.events ++ [⟨.opened, lane⟩])
  | closes (id : SubstreamId) (lane : Lane) (live : Bool) (use : u = .close id)
      (known : c.roll[id]? = some (lane, live)) (roll : c'.roll = c.roll.set id (lane, false))
      (openLanes : c'.openLanes = c.openLanes.erase lane) (rings : c'.rings = c.rings)
      (events : c'.events = c.events ++ [⟨.closed, lane⟩])
  | keeps (opened : c.opened? u = none) (unknown : ∀ id, u = .close id → c.roll[id]? = none)
      (books : c.KeepsBooks c')
      (moves : u ≠ .handle .takeEvents → PcmLedger.moves c' = PcmLedger.moves c)

/-- What opens and closes nothing leaves the books alone. -/
theorem Booking.quiet {u : Use} (hopened : c.opened? u = none) (hcloses : u.closes? = none)
    (hbooks : c.KeepsBooks c')
    (hmoves : u ≠ .handle .takeEvents → PcmLedger.moves c' = PcmLedger.moves c) :
    c.Booking u c' :=
  .keeps hopened (fun id h => absurd h (Use.ne_close hcloses id)) hbooks hmoves

/-- **All that a use can do to the books.** -/
theorem booking_use (c : SoftCard) (u : Use) : c.Booking u (c.use u) := by
  cases u with
  | acquire card lane flags config =>
    rcases acquire_cases card lane flags config c with ⟨-, hacquire⟩ | ⟨-, hacquire⟩
    · refine .quiet ?_ rfl ?_ fun _ => ?_
      · rw [opened?, hacquire]
      · rw [use, hacquire]
        exact .refl c
      · rw [use, hacquire]
    · refine .opens lane ?_ (Use.ne_close rfl) ?_ ?_ ?_ ?_
      · rw [opened?, hacquire, roll, List.length_map]
      all_goals rw [use, hacquire]
      · exact List.map_append
      · rfl
      · rw [← nextTurn_eq]
        rfl
      · rfl
  | close id =>
    cases hs : c.substreams[id]? with
    | none =>
      have hclose : c.use (.close id) = c := by simp only [use, PcmDriver.close, close, hs]
      refine .keeps rfl ?_ ?_ fun _ => by rw [hclose]
      · rintro id' h
        obtain rfl := Use.close.inj h
        rw [roll, List.getElem?_map, hs]
        rfl
      · rw [hclose]
        exact .refl c
    | some s =>
      have hclose : c.use (.close id) =
          ((c.put id { s with live := false }).countOut s.lane).record .closed s.lane := by
        simp only [use, PcmDriver.close, close, hs]
      refine .closes id s.lane s.live rfl ?_ ?_ ?_ ?_ ?_
      · rw [roll, List.getElem?_map, hs]
        rfl
      all_goals rw [hclose]
      · exact List.map_set
      · rfl
      · rfl
      · rfl
  | start id =>
    exact .quiet rfl rfl (keepsBooks_start id c) fun _ => (LawfulLedger.start id c).moves
  | stop id =>
    exact .quiet rfl rfl (keepsBooks_stop id c) fun _ => (LawfulLedger.stop id c).moves
  | write id bytes =>
    exact .quiet rfl rfl (keepsBooks_write id bytes c) fun _ =>
      (LawfulLedger.write id bytes c).moves
  | read id length =>
    exact .quiet rfl rfl (keepsBooks_read id length c) fun _ =>
      (LawfulLedger.read id length c).moves
  | handle h =>
    refine .quiet rfl rfl (keepsBooks_handle c h) fun hkept => ?_
    exact congrArg (List.filter isMove) (events_handle c fun heq => hkept (congrArg _ heq))

/-! ## Runs -/

/-- An entry of a list with one more is the new one, or it was there. -/
theorem getElem?_concat_eq_some_iff {α : Type} {l : List α} {a b : α} {i : Nat} :
    (l ++ [a])[i]? = some b ↔ i = l.length ∧ a = b ∨ l[i]? = some b := by
  rcases Nat.lt_trichotomy i l.length with hlt | rfl | hgt
  · rw [List.getElem?_append_left hlt, or_iff_right fun h => Nat.ne_of_lt hlt h.1]
  · simp
  · have hnone : l[i]? = none := List.getElem?_eq_none (Nat.le_of_lt hgt)
    have hnone' : (l ++ [a])[i]? = none := List.getElem?_eq_none (by rwa [List.length_append])
    rw [hnone, hnone']
    exact ⟨fun h => (nomatch h), fun h => h.elim (fun h => absurd h.1 (Nat.ne_of_gt hgt)) id⟩

/-- What is looked up under another key than that of the new entry. -/
theorem lookup_cons_filter_ne {α β : Type} [DecidableEq α] {k k' : α} (hne : k ≠ k') (b : β)
    (l : List (α × β)) : ((k, b) :: l.filter (·.1 ≠ k)).lookup k' = l.lookup k' := by
  have hother : (k' == k) = false := beq_eq_false_iff_ne.2 hne.symm
  rw [List.lookup_cons, hother]
  exact lookup_filter (q := fun x => decide (x ≠ k)) (decide_eq_true hne.symm) l

/-- The books of a card agree with what was done with it. -/
structure Balanced (c : SoftCard) (history : List Deed) : Prop where
  stillOpen (lane : Lane) (id : SubstreamId) :
    StillOpen history lane id ↔ c.roll[id]? = some (lane, true)
  closed {id : SubstreamId} {lane : Lane} (h : c.roll[id]? = some (lane, false)) :
    id ∈ history.filterMap (·.use.closes?)
  counted (lane : Lane) : c.openLanes.count lane = c.roll.count (lane, true)
  recorded (lane : Lane) : c.events.count ⟨.opened, lane⟩ =
    c.events.count ⟨.closed, lane⟩ + c.roll.count (lane, true)
  latest {lane : Lane} {id : SubstreamId} (h : Latest history lane id) :
    (∃ live, c.roll[id]? = some (lane, live)) ∧
      c.rings.lookup lane = some ((c.lanes.take id).count lane)
  unopened {lane : Lane} (h : ∀ e ∈ history, ∀ id, e.opened ≠ some (lane, id)) :
    c.rings.lookup lane = none

/-- The books of a new card are in balance. -/
theorem balanced_new : ({} : SoftCard).Balanced [] where
  stillOpen _ _ := ⟨fun h => absurd h not_since_nil, fun h => (nomatch h)⟩
  closed h := nomatch h
  counted _ := rfl
  recorded _ := rfl
  latest h := absurd h not_since_nil
  unopened _ := rfl

section

variable {history : List Deed} {u : Use} (h : c.Balanced history)

include h

/-- Books in balance stay so when a substream is opened. -/
theorem Balanced.opens {lane : Lane} (hopened : c.opened? u = some (lane, c.roll.length))
    (hother : ∀ id, u ≠ .close id) (hroll : c'.roll = c.roll ++ [(lane, true)])
    (hlanes : c'.openLanes = lane :: c.openLanes)
    (hrings : c'.rings = (lane, c.lanes.count lane) :: c.rings.filter (·.1 ≠ lane))
    (hevents : c'.events = c.events ++ [⟨.opened, lane⟩]) :
    c'.Balanced (history ++ [⟨u, c.opened? u⟩]) where
  stillOpen lane' id := by
    rw [stillOpen_concat, hopened, hroll, getElem?_concat_eq_some_iff, h.stillOpen,
      and_iff_left (hother id)]
    refine or_congr ⟨?_, ?_⟩ .rfl
    · rintro ⟨rfl, rfl⟩
      exact ⟨rfl, rfl⟩
    · rintro ⟨rfl, hentry⟩
      rw [(Prod.mk.inj hentry).1]
  closed {id lane'} hid := by
    rw [hroll, getElem?_concat_eq_some_iff] at hid
    rw [List.filterMap_append]
    rcases hid with ⟨-, hnew⟩ | hold
    · cases hnew
    · exact List.mem_append_left _ (h.closed hold)
  counted lane' := by
    rw [hlanes, hroll, List.count_cons, List.count_append, List.count_singleton, h.counted]
    simp
  recorded lane' := by
    have hrecorded := h.recorded lane'
    rw [hevents, hroll, List.count_append, List.count_append, List.count_append]
    by_cases hlane : lane = lane'
    · simp [hlane]
      omega
    · simp [hlane]
      omega
  latest {lane' id} hlatest := by
    have hlanes' : c'.lanes = c.lanes ++ [lane] := by rw [lanes, hroll, List.map_append]; rfl
    rw [latest_concat, hopened] at hlatest
    rcases hlatest with hnew | ⟨hold, hnone⟩
    · -- the new ring is at hand, and its turn is the next one
      obtain ⟨rfl, rfl⟩ := Prod.mk.inj (Option.some.inj hnew)
      have hlength : c.roll.length = c.lanes.length := (List.length_map ..).symm
      refine ⟨⟨true, by rw [hroll]; exact List.getElem?_concat_length⟩, ?_⟩
      rw [hrings, List.lookup_cons_self, hlanes', hlength, List.take_left' rfl]
    · have hne : lane ≠ lane' := fun hlane => hnone c.roll.length (by rw [hlane])
      obtain ⟨⟨live, hknown⟩, hturn⟩ := h.latest hold
      have hlt := (List.getElem?_eq_some_iff.1 hknown).1
      refine ⟨⟨live, by rw [hroll, List.getElem?_append_left hlt, hknown]⟩, ?_⟩
      rw [hrings, lookup_cons_filter_ne hne, hturn, hlanes', List.take_append_of_le_length]
      rw [lanes, List.length_map]
      exact Nat.le_of_lt hlt
  unopened {lane'} hnone := by
    have hne : lane ≠ lane' := by
      rintro rfl
      exact hnone _ (List.mem_append_right _ (List.mem_singleton_self _)) _ hopened
    rw [hrings, lookup_cons_filter_ne hne]
    exact h.unopened fun e he => hnone e (List.mem_append_left _ he)

/-- They stay so when a substream is closed for the first time. -/
theorem Balanced.closes {lane : Lane} {live : Bool} (huse : u = .close id)
    (hfirst : id ∉ history.filterMap (·.use.closes?)) (hknown : c.roll[id]? = some (lane, live))
    (hroll : c'.roll = c.roll.set id (lane, false)) (hlanes : c'.openLanes = c.openLanes.erase lane)
    (hrings : c'.rings = c.rings) (hevents : c'.events = c.events ++ [⟨.closed, lane⟩]) :
    c'.Balanced (history ++ [⟨u, c.opened? u⟩]) := by
  subst huse
  -- whoever is not closed yet is counted
  obtain rfl : live = true := by
    cases live with
    | true => rfl
    | false => exact absurd (h.closed hknown) hfirst
  have hopened : c.opened? (.close id) = none := rfl
  have hlt : id < c.roll.length := (List.getElem?_eq_some_iff.1 hknown).1
  have hcount : ∀ lane', c'.roll.count (lane', true) + (if lane = lane' then 1 else 0) =
      c.roll.count (lane', true) := fun lane' => by
    have hset := countP_set_add (· == (lane', true)) (lane, false) hknown
    simpa [hroll, List.count] using hset
  have hlanes' : c'.lanes = c.lanes := by
    rw [lanes, hroll, map_set_of_eq (f := Prod.fst) (b := (lane, false)) hknown rfl]
    rfl
  refine ⟨fun lane' id' => ?_, fun {id' lane'} hid => ?_, fun lane' => ?_, fun lane' => ?_,
    fun {lane' id'} hlatest => ?_, fun {lane'} hnone => ?_⟩
  · rw [stillOpen_concat, hopened, or_iff_right (fun hnew => (nomatch hnew)), hroll,
      h.stillOpen]
    by_cases hid : id = id'
    · subst hid
      simp [List.getElem?_set_self hlt]
    · rw [List.getElem?_set_ne hid]
      exact and_iff_left fun heq => hid (Use.close.inj heq)
  · rw [List.filterMap_append]
    by_cases heq : id = id'
    · subst heq
      exact List.mem_append_right _ (List.mem_singleton_self _)
    · rw [hroll, List.getElem?_set_ne heq] at hid
      exact List.mem_append_left _ (h.closed hid)
  · have hlane := hcount lane'
    rw [hlanes, List.count_erase, h.counted]
    simp only [beq_iff_eq]
    omega
  · have hlane := hcount lane'
    have hrecorded := h.recorded lane'
    rw [hevents, List.count_append, List.count_append, List.count_singleton, List.count_singleton]
    simp only [beq_iff_eq, PcmEvent.mk.injEq, reduceCtorEq, false_and, true_and, if_false]
    omega
  · rw [latest_concat, hopened, or_iff_right (fun hnew => (nomatch hnew))] at hlatest
    obtain ⟨⟨live, hentry⟩, hturn⟩ := h.latest hlatest.1
    rw [hrings, hlanes', hroll]
    refine ⟨?_, hturn⟩
    by_cases hid : id = id'
    · subst hid
      obtain ⟨rfl, -⟩ := Prod.mk.inj (Option.some.inj (hknown.symm.trans hentry))
      exact ⟨false, List.getElem?_set_self hlt⟩
    · exact ⟨live, by rw [List.getElem?_set_ne hid, hentry]⟩
  · rw [hrings]
    exact h.unopened fun e he => hnone e (List.mem_append_left _ he)

/-- They stay so when nothing is opened or closed. -/
theorem Balanced.keeps (hopened : c.opened? u = none)
    (hunknown : ∀ id, u = .close id → c.roll[id]? = none) (hbooks : c.KeepsBooks c')
    (hmoves : PcmLedger.moves c' = PcmLedger.moves c) :
    c'.Balanced (history ++ [⟨u, c.opened? u⟩]) where
  stillOpen lane id := by
    rw [stillOpen_concat, hopened, or_iff_right (fun hnew => (nomatch hnew)), hbooks.roll,
      h.stillOpen]
    refine and_iff_left_of_imp fun hopen hclose => ?_
    rw [hunknown id hclose] at hopen
    cases hopen
  closed hid := by
    rw [hbooks.roll] at hid
    rw [List.filterMap_append]
    exact List.mem_append_left _ (h.closed hid)
  counted lane := by rw [hbooks.openLanes, hbooks.roll, h.counted]
  recorded lane := by
    have hrecorded := h.recorded lane
    have hcount : ∀ e, isMove e = true → c'.events.count e = c.events.count e := fun e he => by
      rw [← List.count_filter he, ← List.count_filter (l := c.events) he]
      exact congrArg (List.count e) hmoves
    rw [hcount _ rfl, hcount _ rfl, hbooks.roll, hrecorded]
  latest {lane id} hlatest := by
    rw [latest_concat, hopened, or_iff_right (fun hnew => (nomatch hnew))] at hlatest
    rw [hbooks.rings, lanes, hbooks.roll]
    exact h.latest hlatest.1
  unopened {lane} hnone := by
    rw [hbooks.rings]
    exact h.unopened fun e he => hnone e (List.mem_append_left _ he)

/-- A use keeps the balance, unless the record is taken or a substream closed twice. -/
theorem Balanced.step (hkept : u ≠ .handle .takeEvents)
    (honce : ∀ id, u = .close id → id ∉ history.filterMap (·.use.closes?)) :
    (c.use u).Balanced (history ++ [⟨u, c.opened? u⟩]) := by
  cases booking_use c u with
  | opens lane opened other roll openLanes rings events =>
    exact h.opens opened other roll openLanes rings events
  | closes id lane live use known roll openLanes rings events =>
    exact h.closes use (honce id use) known roll openLanes rings events
  | keeps opened unknown books moves => exact h.keeps opened unknown books (moves hkept)

end

/-- The uses of what was done. -/
theorem map_use_deeds (c : SoftCard) (uses : List Use) : (c.deeds uses).map (·.use) = uses := by
  induction uses generalizing c with
  | nil => rfl
  | cons u uses ih => rw [deeds, List.map_cons, ih]

/-- A card whose record nobody took and whose substreams were closed once has balanced books. -/
theorem balanced_used {uses : List Use} (hkept : Use.handle .takeEvents ∉ uses)
    (honce : (uses.filterMap Use.closes?).Nodup) :
    (used uses).Balanced (({} : SoftCard).deeds uses) := by
  induction uses using List.reverseRecOn with
  | nil => exact balanced_new
  | append_singleton uses u ih =>
    rw [List.filterMap_append, List.nodup_append] at honce
    obtain ⟨hbefore, -, hapart⟩ := honce
    have hold := ih (fun h => hkept (List.mem_append_left _ h)) hbefore
    rw [used, List.foldl_append, deeds_concat]
    refine hold.step (fun h => hkept (by simp [h])) ?_
    rintro id rfl hclosed
    have hclosed' : id ∈ ((({} : SoftCard).deeds uses).map (·.use)).filterMap Use.closes? := by
      rwa [List.filterMap_map]
    rw [map_use_deeds] at hclosed'
    exact hapart id hclosed' id (List.mem_singleton_self _) rfl

/-! ## What the books tell -/

/-- The program comes back from the use. -/
def returns (c : SoftCard) : Use → Bool
  | .acquire card lane flags config => (c.acquire? card lane flags config).isSome
  | .write id bytes => (c.write? id bytes).isSome
  | .read id length => (c.read? id length).isSome
  | _ => true

/-- What the books of a card tell of what was done with it. -/
structure BooksLaw (c : SoftCard) (history : List Deed) : Prop where
  /-- A lane is open while a substream that was opened on it is not closed. -/
  isOpen (lane : Lane) : c.isOpen lane = true ↔ ∃ id, StillOpen history lane id
  /-- More was opened than closed then, by the record. -/
  recorded (lane : Lane) : c.isOpen lane = true ↔ 0 < c.recordedOpen lane
  /-- The count is the record's, and that of the substreams. -/
  counted (lane : Lane) : (c.openLanes.count lane : Int) = c.recordedOpen lane ∧
    c.openLanes.count lane = c.openCount lane
  /-- The ring at hand for a lane is that of the latest substream, open or not. -/
  ring {lane : Lane} {id : SubstreamId} (h : Latest history lane id) :
    ∃ s, c.substreams[id]? = some s ∧ s.lane = lane ∧ c.ring? lane = some s.ring
  noRing {lane : Lane} (h : ∀ e ∈ history, ∀ id, e.opened ≠ some (lane, id)) : c.ring? lane = none
  /-- An open fails where the card does not grant it, changes nothing and goes on no record. -/
  failed {card : Nat} {lane : Lane} {flags : PcmFlags} {config : PcmConfig} :
    (∃ e, (PcmDriver.acquire card lane flags config c).1 = .error e) ↔
      ¬c.Grants lane flags config ∧
        PcmDriver.acquire card lane flags config c = (.error (c.refusal card lane flags), c)
  /-- No substream notices what is done with another, be it on the same lane. -/
  others {u : Use} {id : SubstreamId} {s : Substream} (h : c.substreams[id]? = some s)
    (hother : u.about? ≠ some id) : (c.use u).substreams[id]? = some s
  /-- Transfers of frames without samples stop the program. -/
  frameless {id : SubstreamId} {s : Substream} (h : c.substreams[id]? = some s)
    (hzero : s.config.channels = 0) :
    (∀ bytes, c.write? id bytes = none) ∧ ∀ length, c.read? id length = none
  /-- What stops the program leaves the card as it was. -/
  stopped {u : Use} (h : c.returns u = false) : c.use u = c

/-- A call without an answer leaves the card as it was. -/
theorem orStopped_snd {α : Type} {answer? : Option (Except PcmError α × SoftCard)}
    (h : answer?.isSome = false) : (c.orStopped answer?).2 = c := by
  cases answer? with
  | none => rfl
  | some answer => cases h

/-- A use that never returns leaves the card as it was. -/
theorem use_of_not_returns {u : Use} (h : c.returns u = false) : c.use u = c := by
  cases u with
  | acquire | write | read => exact orStopped_snd h
  | start | stop | close | handle => cases h

theorem transfer?_frameless {α : Type} (hs : c.substreams[id]? = some s)
    (hzero : s.config.channels = 0) (length : Nat) (move : Substream → α × Substream) :
    c.transfer? id length move = none := by
  have hframe : s.config.frameBytes = 0 := by rw [PcmConfig.frameBytes, hzero, Nat.zero_mul]
  unfold transfer?
  rw [hs]
  exact if_pos hframe

section

variable {history : List Deed} (h : c.Balanced history)

include h

theorem Balanced.isOpen_iff (lane : Lane) :
    c.isOpen lane = true ↔ ∃ id, StillOpen history lane id := by
  rw [isOpen, decide_eq_true_iff, h.counted, List.count_pos_iff, List.mem_iff_getElem?]
  exact exists_congr fun id => (h.stillOpen lane id).symm

theorem Balanced.recordedOpen_eq_count (lane : Lane) :
    (c.openLanes.count lane : Int) = c.recordedOpen lane := by
  have hrecorded := h.recorded lane
  rw [← h.counted] at hrecorded
  rw [recordedOpen]
  omega

theorem Balanced.openCount_eq_count (lane : Lane) :
    c.openLanes.count lane = c.openCount lane := by
  rw [h.counted, roll, openCount, List.count, List.countP_map]
  refine List.countP_congr fun s _ => ?_
  simp [and_comm]

/-- The ring at hand is that of the substream opened last. -/
theorem Balanced.ring_latest {lane : Lane} {id : SubstreamId} (hlatest : Latest history lane id) :
    ∃ s, c.substreams[id]? = some s ∧ s.lane = lane ∧ c.ring? lane = some s.ring := by
  obtain ⟨⟨live, hknown⟩, hturn⟩ := h.latest hlatest
  exact ring?_of_turn hknown hturn

/-- Where nothing was opened, no ring is at hand. -/
theorem Balanced.ring_none {lane : Lane} (hnone : ∀ e ∈ history, ∀ id, e.opened ≠ some (lane, id)) :
    c.ring? lane = none := by
  rw [ring?_eq, h.unopened hnone]
  rfl

end

/-- **The books of the card.** However a new card was used, be there as many substreams of a lane
as there may, and be they closed in whatever order: as long as nobody took the record and every
substream was closed once at most, the books tell what was done. -/
theorem books_agree {uses : List Use} (hkept : Use.handle .takeEvents ∉ uses)
    (honce : (uses.filterMap Use.closes?).Nodup) :
    BooksLaw (used uses) (({} : SoftCard).deeds uses) := by
  have h := balanced_used hkept honce
  refine ⟨h.isOpen_iff, fun lane => ?_, fun lane => ?_, h.ring_latest, h.ring_none, ?_, ?_, ?_,
    use_of_not_returns⟩
  · rw [← h.recordedOpen_eq_count, isOpen, decide_eq_true_iff, Int.natCast_pos]
  · exact ⟨h.recordedOpen_eq_count lane, h.openCount_eq_count lane⟩
  · intro card lane flags config
    rcases acquire_cases card lane flags config (used uses) with
      ⟨hnot, hacquire⟩ | ⟨hgranted, hacquire⟩
    · rw [hacquire]
      exact ⟨fun _ => ⟨hnot, rfl⟩, fun _ => ⟨_, rfl⟩⟩
    · rw [hacquire]
      exact ⟨fun ⟨e, he⟩ => (nomatch he), fun ⟨hnot, _⟩ => absurd hgranted hnot⟩
  · intro u id s hs hother
    exact getElem?_use_of_ne _ hs hother
  · intro id s hs hzero
    exact ⟨fun _ => transfer?_frameless hs hzero _ _, fun _ => transfer?_frameless hs hzero _ _⟩

/-- Two substreams of one lane overlap. A third open is refused, then one of another lane because
the host maps no memory, and the younger of the two is closed: their lane stays open for the older
one, and the ring at hand is still that of the younger. -/
theorem books_agree_overlapping :
    let opening : Use := .acquire 0 .hifiPlayback .none .voice
    let uses : List Use := [opening, opening, .write 1 [1, 0, 2, 0],
      .handle (.refuseLane .hifiPlayback), opening,
      .handle (.limitMappings 0), .acquire 0 .hifiCapture .mapped .voice, .close 1]
    let history := ({} : SoftCard).deeds uses
    Use.handle .takeEvents ∉ uses ∧ (uses.filterMap Use.closes?).Nodup ∧
      StillOpen history .hifiPlayback 0 ∧ (used uses).isOpen .hifiPlayback = true ∧
      (used uses).recordedOpen .hifiPlayback = 1 ∧
      Latest history .hifiPlayback 1 ∧
      (∃ s, (used uses).substreams[1]? = some s ∧ s.live = false ∧
        (used uses).ring? .hifiPlayback = some s.ring ∧ s.ring.toList = [[1, 2]]) ∧
      (used uses).ring? .hifiCapture = none ∧
      PcmDriver.acquire 0 .hifiCapture .mapped .voice (used uses) =
        (.error .mapping, used uses) := by
  intro opening uses history
  have hkept : Use.handle .takeEvents ∉ uses := by simp [uses, opening]
  have honce : (uses.filterMap Use.closes?).Nodup := by decide
  obtain ⟨hopen, -, hcounted, hring, hnoRing, hfailed, -, -, -⟩ := books_agree hkept honce
  have hbalanced : (used uses).Balanced history := balanced_used hkept honce
  have hstill : StillOpen history .hifiPlayback 0 := (hbalanced.stillOpen _ _).2 (by decide)
  have hlater : ∀ e ∈ history.drop 2, e.opened = none := by decide
  have hlatest : Latest history .hifiPlayback 1 :=
    ⟨history.take 1, _, history.drop 2, rfl, rfl, fun e he later heq => by
      rw [hlater e he] at heq
      cases heq⟩
  obtain ⟨s, hs, -, hsome⟩ := hring hlatest
  have hclosed : ((used uses).substreams[1]?).map (fun s => (s.live, s.ring.toList)) =
      some (false, [[1, 2]]) := by decide +kernel
  rw [hs] at hclosed
  obtain ⟨hlive, hlist⟩ := Prod.mk.inj (Option.some.inj hclosed)
  have hnone : ∀ e ∈ history, ∀ id, e.opened ≠ some (.hifiCapture, id) := by
    have hplayback : ∀ e ∈ history, ∀ o ∈ e.opened, o.1 = .hifiPlayback := by decide
    intro e he id heq
    cases hplayback e he _ heq
  have hrefused : ∃ e, (PcmDriver.acquire 0 .hifiCapture .mapped .voice (used uses)).1 = .error e :=
    ⟨.mapping, rfl⟩
  refine ⟨hkept, honce, hstill, (hopen _).2 ⟨0, hstill⟩, ?_, hlatest, ⟨s, hs, hlive, hsome, hlist⟩,
    hnoRing hnone, (hfailed.1 hrefused).2⟩
  rw [← (hcounted _).1]
  decide

end SoftCard

end HandsetAudio
