import HandsetAudio.Proofs.Pcm.SoftCard
import Mathlib.Data.List.Induction

/-!
# One direction of the software card

Substreams of the two directions share a card's numbers and its record, and nothing else.
`SoftCard.only` is the card as if nothing had ever been opened in the other direction; there a
substream has another number, its `place`. Main statements:

> `acquire_only`, `write_only`, `read_only`, `close_only`: the card does the same for a substream
> if there is only its direction.
> `only_acquire_of_not`, `only_write_of_not`, ..: and the other direction does not see it.
> `Extends`: no operation moves a substream, so a place lasts.
-/

namespace HandsetAudio

section

variable {α : Type} {p : α → Bool} {l : List α} {i : Nat} {a b : α}

/-- A list around one of its elements. -/
theorem split_at_getElem? (h : l[i]? = some a) : l = l.take i ++ a :: l.drop (i + 1) := by
  obtain ⟨hlt, rfl⟩ := List.getElem?_eq_some_iff.1 h
  rw [← List.drop_eq_getElem_cons hlt, List.take_append_drop]

/-- A list around an element that was replaced. -/
theorem set_of_getElem? (h : l[i]? = some a) (b : α) :
    l.set i b = l.take i ++ b :: l.drop (i + 1) := by
  obtain ⟨hlt, rfl⟩ := List.getElem?_eq_some_iff.1 h
  rw [List.set_eq_take_append_cons_drop, if_pos hlt]

/-- Replacing an element by one that looks the same. -/
theorem map_set_of_eq {β : Type} {f : α → β} (h : l[i]? = some a) (hb : f b = f a) :
    (l.set i b).map f = l.map f := by
  obtain ⟨hlt, rfl⟩ := List.getElem?_eq_some_iff.1 h
  have hlt' : i < (l.map f).length := by simpa using hlt
  rw [List.map_set, hb]
  conv_rhs => rw [← List.set_getElem_self hlt']
  simp

/-- The elements that are kept, around one of them. -/
theorem filter_split_at (h : l[i]? = some a) (ha : p a = true) :
    l.filter p = (l.take i).filter p ++ a :: (l.drop (i + 1)).filter p := by
  conv_lhs => rw [split_at_getElem? h]
  rw [List.filter_append, List.filter_cons_of_pos ha]

/-- Where an element of a list comes to lie when only some are kept. -/
theorem getElem?_filter_countP (h : l[i]? = some a) (ha : p a = true) :
    (l.filter p)[(l.take i).countP p]? = some a := by
  rw [filter_split_at h ha, List.countP_eq_length_filter]
  exact List.getElem?_append_right (Nat.le_refl _) |>.trans (by simp)

/-- Replacing an element that is kept by one that is kept. -/
theorem filter_set_of_pos (h : l[i]? = some a) (ha : p a = true) (hb : p b = true) :
    (l.set i b).filter p = (l.filter p).set ((l.take i).countP p) b := by
  rw [set_of_getElem? h, filter_split_at h ha, List.countP_eq_length_filter, List.filter_append,
    List.filter_cons_of_pos hb, List.set_append_right _ _ (Nat.le_refl _), Nat.sub_self]
  rfl

/-- Replacing an element that is not kept by one that is not kept. -/
theorem filter_set_of_neg (h : l[i]? = some a) (ha : p a = false) (hb : p b = false) :
    (l.set i b).filter p = l.filter p := by
  conv_rhs => rw [split_at_getElem? h]
  rw [set_of_getElem? h, List.filter_append, List.filter_append]
  simp [ha, hb]

/-- The elements that are kept, found by their numbers. -/
theorem getElem?_filter_range (l : List α) (p : α → Bool) (k : Nat) :
    (((List.range l.length).filter fun i => (l[i]?).any p)[k]?).bind (l[·]?) =
      (l.filter p)[k]? := by
  have hmap : ((List.range l.length).filter fun i => (l[i]?).any p).map (l[·]?) =
      (l.filter p).map some := by
    induction l using List.reverseRecOn with
    | nil => rfl
    | append_singleton l a ih =>
      have hbefore : ∀ i ∈ List.range l.length, (l ++ [a])[i]? = l[i]? := fun i hi =>
        List.getElem?_append_left (List.mem_range.1 hi)
      have hfront : (List.range l.length).filter (fun i => ((l ++ [a])[i]?).any p) =
          (List.range l.length).filter fun i => (l[i]?).any p :=
        List.filter_congr fun i hi => by rw [hbefore i hi]
      have hmapped : ((List.range l.length).filter fun i => (l[i]?).any p).map ((l ++ [a])[·]?) =
          ((List.range l.length).filter fun i => (l[i]?).any p).map (l[·]?) :=
        List.map_congr_left fun i hi => hbefore i (List.mem_filter.1 hi).1
      rw [List.length_append, List.length_singleton, List.range_succ, List.filter_append,
        List.map_append, hfront, hmapped, ih, List.filter_append, List.map_append]
      congr 1
      cases ha : p a <;> simp [ha]
  have hk := congrArg (·[k]?) hmap
  simp only [List.getElem?_map] at hk
  generalize ((List.range l.length).filter fun i => (l[i]?).any p)[k]? = i at hk ⊢
  generalize (l.filter p)[k]? = a at hk ⊢
  cases i with
  | none =>
    cases a with
    | none => rfl
    | some a => cases hk
  | some i =>
    cases a with
    | none => cases hk
    | some a => exact Option.some.inj hk

/-- What is looked up under a key that is kept. -/
theorem lookup_filter {β : Type} [BEq α] [LawfulBEq α] {q : α → Bool} {k : α} (hk : q k = true)
    (l : List (α × β)) : (l.filter fun e => q e.1).lookup k = l.lookup k := by
  induction l with
  | nil => rfl
  | cons e l ih =>
    obtain ⟨k', b⟩ := e
    rw [List.filter_cons]
    by_cases hsame : k = k'
    · subst hsame
      rw [if_pos hk, List.lookup_cons_self, List.lookup_cons_self]
    · have hne : (k == k') = false := beq_eq_false_iff_ne.2 hsame
      split
      next => simp only [List.lookup_cons, hne, ih]
      next => simp only [List.lookup_cons, hne, ih]

end

/-- Whether a lane lies in a direction. -/
def Lane.faces (dir : Direction) (l : Lane) : Bool := l.direction = dir

/-- Whether a substream lies in a direction. -/
def Substream.faces (dir : Direction) (s : Substream) : Bool := s.lane.faces dir

/-- Whether an entry is about a direction. -/
def PcmEvent.faces (dir : Direction) (e : PcmEvent) : Bool := e.lane.faces dir

/-- No lane lies in two directions. -/
theorem Lane.faces_of_ne {dir dir' : Direction} (hne : dir' ≠ dir) {l : Lane}
    (h : l.faces dir = true) : l.faces dir' = false := by
  unfold faces at *
  rw [of_decide_eq_true h]
  exact decide_eq_false hne.symm

namespace SoftCard

/-- The card as if nothing had been opened but in one direction. -/
def only (dir : Direction) (c : SoftCard) : SoftCard :=
  { c with
    substreams := c.substreams.filter (Substream.faces dir)
    rings := c.rings.filter fun e => e.1.faces dir
    openLanes := c.openLanes.filter (Lane.faces dir)
    events := c.events.filter (PcmEvent.faces dir) }

/-- The number of a substream among those of a direction. -/
def place (dir : Direction) (c : SoftCard) (id : SubstreamId) : SubstreamId :=
  (c.substreams.take id).countP (Substream.faces dir)

/-- The substream was opened in a direction. -/
def Lies (c : SoftCard) (dir : Direction) (id : SubstreamId) : Prop :=
  ∃ s, c.substreams[id]? = some s ∧ s.faces dir = true

/-- The substreams are where they were, on the lanes that they had; there may be more. -/
def Extends (c c' : SoftCard) : Prop := c.substreams.map (·.lane) <+: c'.substreams.map (·.lane)

variable {c c' c'' : SoftCard} {dir : Direction} {id : SubstreamId} {s s' : Substream}

/-- An open substream lies in the direction of its lane. -/
theorem Lies.of_isOpen {lane : Lane} (h : PcmLedger.IsOpen c id lane) :
    c.Lies lane.direction id := by
  obtain ⟨s, hs, -, rfl⟩ := h
  exact ⟨s, hs, decide_eq_true rfl⟩

/-- A substream of one direction is none of the other. -/
theorem Lies.not {dir' : Direction} (h : c.Lies dir id) (hne : dir' ≠ dir) :
    ∃ s, c.substreams[id]? = some s ∧ s.faces dir' = false := by
  obtain ⟨s, hs, hfaces⟩ := h
  exact ⟨s, hs, Lane.faces_of_ne hne hfaces⟩

theorem Extends.refl (c : SoftCard) : c.Extends c := List.prefix_rfl

theorem Extends.trans (h : c.Extends c') (h' : c'.Extends c'') : c.Extends c'' :=
  List.IsPrefix.trans h h'

/-- A substream keeps its place. -/
theorem Extends.place (h : c.Extends c') (hid : id ≤ c.substreams.length) :
    c'.place dir id = c.place dir id := by
  have hlanes : ∀ e : SoftCard, e.place dir id =
      ((e.substreams.map (·.lane)).take id).countP (Lane.faces dir) := fun e => by
    rw [← List.map_take, List.countP_map]
    rfl
  obtain ⟨more, hmore⟩ := h
  rw [hlanes, hlanes, ← hmore, List.take_append_of_le_length (by simpa using hid)]

/-- A substream stays in its direction. -/
theorem Lies.extends (h : c.Lies dir id) (hext : c.Extends c') : c'.Lies dir id := by
  obtain ⟨s, hs, hfaces⟩ := h
  obtain ⟨more, hmore⟩ := hext
  have hlane : (c.substreams.map (·.lane))[id]? = some s.lane := by
    rw [List.getElem?_map, hs, Option.map_some]
  have hlane' := congrArg (·[id]?) hmore
  simp only [List.getElem?_append_left (List.getElem?_eq_some_iff.1 hlane).1, hlane] at hlane'
  obtain ⟨s', hs', hsame⟩ := Option.map_eq_some_iff.1 (List.getElem?_map.symm.trans hlane'.symm)
  exact ⟨s', hs', by rw [Substream.faces, hsame]; exact hfaces⟩

/-- A substream keeps its place in its direction. -/
theorem Lies.place (h : c.Lies dir id) (hext : c.Extends c') :
    c'.place dir id = c.place dir id := by
  obtain ⟨s, hs, -⟩ := h
  exact hext.place (Nat.le_of_lt (List.getElem?_eq_some_iff.1 hs).1)

/-! ## Replacing a substream, and the record -/

/-- A substream changes in its place. -/
theorem extends_put (hs : c.substreams[id]? = some s) (hlane : s'.lane = s.lane) :
    c.Extends (c.put id s') := by
  unfold Extends
  rw [show (c.put id s').substreams = c.substreams.set id s' from rfl, map_set_of_eq hs hlane]

theorem extends_ensureRunning (c : SoftCard) (s : Substream) : c.Extends (c.ensureRunning s) := by
  unfold ensureRunning
  split <;> exact .refl c

/-- An entry about the direction is kept in its record. -/
theorem only_record (c : SoftCard) (action : PcmAction) {lane : Lane} (h : lane.faces dir = true) :
    (c.record action lane).only dir = (c.only dir).record action lane := by
  have hentry : (PcmEvent.mk action lane).faces dir = true := h
  simp [only, record, hentry]

/-- An entry about the other direction is not. -/
theorem only_record_of_not (c : SoftCard) (action : PcmAction) {lane : Lane}
    (h : lane.faces dir = false) : (c.record action lane).only dir = c.only dir := by
  have hentry : (PcmEvent.mk action lane).faces dir = false := h
  simp [only, record, hentry]

theorem only_countIn (c : SoftCard) {lane : Lane} (h : lane.faces dir = true) :
    (c.countIn lane).only dir = (c.only dir).countIn lane := by
  simp only [only, countIn, List.filter_cons_of_pos h]

theorem only_countIn_of_not (c : SoftCard) {lane : Lane} (h : lane.faces dir = false) :
    (c.countIn lane).only dir = c.only dir := by
  simp only [only, countIn, List.filter_cons_of_neg (Bool.eq_false_iff.1 h)]

theorem only_countOut (c : SoftCard) (lane : Lane) :
    (c.countOut lane).only dir = (c.only dir).countOut lane := by
  simp only [only, countOut, List.erase_filter]

theorem only_countOut_of_not (c : SoftCard) {lane : Lane} (h : lane.faces dir = false) :
    (c.countOut lane).only dir = c.only dir := by
  have hnone : lane ∉ c.openLanes.filter (Lane.faces dir) := fun hmem => by
    rw [List.mem_filter, h] at hmem
    cases hmem.2
  rw [only_countOut, countOut]
  simp only [only, List.erase_of_not_mem hnone]

/-- The ring at hand on a lane of the direction. -/
theorem only_showRing (c : SoftCard) {lane : Lane} (h : lane.faces dir = true) (n : Nat) :
    (c.showRing lane n).only dir = (c.only dir).showRing lane n := by
  simp [only, showRing, h, Bool.and_comm]

theorem only_showRing_of_not (c : SoftCard) {lane : Lane} (h : lane.faces dir = false) (n : Nat) :
    (c.showRing lane n).only dir = c.only dir := by
  have hrings : (c.rings.filter (·.1 ≠ lane)).filter (fun e => e.1.faces dir) =
      c.rings.filter fun e => e.1.faces dir := by
    rw [List.filter_filter]
    refine List.filter_congr fun e _ => Bool.and_eq_left_iff_imp.2 fun hfaces => ?_
    refine decide_eq_true fun hlane => ?_
    rw [hlane, h] at hfaces
    cases hfaces
  simp only [only, showRing]
  rw [List.filter_cons_of_neg (by simp [h]), hrings]

/-- A turn counts the substreams of one lane, which are of one direction. -/
theorem nextTurn_only (c : SoftCard) {lane : Lane} (h : lane.faces dir = true) :
    (c.only dir).nextTurn lane = c.nextTurn lane := by
  simp only [nextTurn, only, List.countP_filter]
  refine List.countP_congr fun s _ => ?_
  rw [Bool.and_eq_true, and_iff_left_of_imp]
  intro hlane
  rw [Substream.faces, of_decide_eq_true hlane]
  exact h

/-- A substream that is opened in the direction is enlisted there. -/
theorem only_enlist (c : SoftCard) {lane : Lane} (config : PcmConfig) (ring : Ring)
    (h : lane.faces dir = true) :
    (c.enlist lane config ring).only dir = (c.only dir).enlist lane config ring := by
  have hnew : (Substream.mk lane config ring false true).faces dir = true := h
  rw [enlist, enlist, only_record _ _ h, only_countIn _ h, only_showRing _ h, nextTurn_only c h]
  simp [only, hnew]

/-- One that is opened in the other direction is not seen. -/
theorem only_enlist_of_not (c : SoftCard) {lane : Lane} (config : PcmConfig) (ring : Ring)
    (h : lane.faces dir = false) : (c.enlist lane config ring).only dir = c.only dir := by
  have hnew : (Substream.mk lane config ring false true).faces dir = false := h
  rw [enlist, only_record_of_not _ _ h, only_countIn_of_not _ h, only_showRing_of_not _ h]
  simp [only, hnew]

/-- A substream of the direction is started there, with the same entry. -/
theorem only_ensureRunning (c : SoftCard) (h : s.faces dir = true) :
    (c.ensureRunning s).only dir = (c.only dir).ensureRunning s := by
  unfold ensureRunning
  split
  next => rfl
  next => exact only_record c _ h

theorem only_ensureRunning_of_not (c : SoftCard) (h : s.faces dir = false) :
    (c.ensureRunning s).only dir = c.only dir := by
  unfold ensureRunning
  split
  next => rfl
  next => exact only_record_of_not c _ h

theorem place_ensureRunning (c : SoftCard) (s : Substream) (id : SubstreamId) :
    (c.ensureRunning s).place dir id = c.place dir id := by
  unfold place
  rw [substreams_ensureRunning]

section

variable (hs : c.substreams[id]? = some s)

include hs

/-- A substream is found at its place. -/
theorem getElem?_only (h : s.faces dir = true) :
    (c.only dir).substreams[c.place dir id]? = some s :=
  getElem?_filter_countP hs h

/-- A substream of the direction changes at its place. -/
theorem only_put (h : s.faces dir = true) (hlane : s'.lane = s.lane) :
    (c.put id s').only dir = (c.only dir).put (c.place dir id) s' := by
  have hset := filter_set_of_pos hs h (b := s') (by rw [← h, Substream.faces, hlane]; rfl)
  simp only [only, put, hset]
  rfl

/-- A change to a substream of the other direction is not seen. -/
theorem only_put_of_not (h : s.faces dir = false) (hlane : s'.lane = s.lane) :
    (c.put id s').only dir = c.only dir := by
  have hset := filter_set_of_neg hs h (b := s') (by rw [← h, Substream.faces, hlane]; rfl)
  simp only [only, put, hset]

end

/-! ## No operation moves a substream -/

/-- Opening adds a substream behind the others, or none. -/
theorem extends_acquire (card : Nat) (lane : Lane) (flags : PcmFlags) (config : PcmConfig)
    (c : SoftCard) : c.Extends (PcmDriver.acquire card lane flags config c).2 := by
  rcases acquire_cases card lane flags config c with ⟨-, hacquire⟩ | ⟨-, hacquire⟩
  · rw [hacquire]
    exact .refl c
  · rw [hacquire]
    exact ⟨[lane], by simp [enlist, showRing, record, countIn]⟩

theorem extends_close (id : SubstreamId) (c : SoftCard) : c.Extends (PcmDriver.close id c) := by
  simp only [PcmDriver.close, close]
  split
  next => exact .refl c
  next s hs => exact extends_put hs rfl

/-- A transfer changes its own substream, in its place. -/
theorem extends_transferred (hs : c.substreams[id]? = some s) (hlane : s'.lane = s.lane) :
    c.Extends ((c.ensureRunning s).put id s') := by
  rw [← substreams_ensureRunning c s] at hs
  exact (extends_ensureRunning c s).trans (extends_put hs hlane)

theorem extends_write (id : SubstreamId) (bytes : List UInt8) (c : SoftCard) :
    c.Extends (PcmDriver.write id bytes c).2 := by
  rcases write_cases id bytes c with ⟨e, hwrite⟩ | ⟨s, hs, -, -, hwrite⟩
  · rw [hwrite]
    exact .refl c
  · rw [hwrite]
    exact extends_transferred hs rfl

theorem extends_read (id : SubstreamId) (length : Nat) (c : SoftCard) :
    c.Extends (PcmDriver.read id length c).2 := by
  rcases read_cases id length c with ⟨e, hread⟩ | ⟨s, hs, -, -, hread⟩
  · rw [hread]
    exact .refl c
  · rw [hread]
    exact extends_transferred hs rfl

/-! ## In the direction of a substream -/

/-- Opening: the new substream has the next place. -/
theorem acquire_only (card : Nat) {lane : Lane} (h : lane.faces dir = true) (flags : PcmFlags)
    (config : PcmConfig) (c : SoftCard) :
    PcmDriver.acquire card lane flags config (c.only dir) =
      ((PcmDriver.acquire card lane flags config c).1.map
          ((PcmDriver.acquire card lane flags config c).2.place dir),
        (PcmDriver.acquire card lane flags config c).2.only dir) := by
  rcases acquire_cases card lane flags config c with ⟨hrefused, hacquire⟩ | ⟨hgranted, hacquire⟩
  · rcases acquire_cases card lane flags config (c.only dir) with ⟨-, honly⟩ | ⟨hgranted, -⟩
    · rw [honly, hacquire]
      rfl
    · exact absurd hgranted hrefused
  · have hhalf : (c.only dir).Grants lane flags config := hgranted
    rw [hacquire, acquire_granted card hhalf, only_enlist _ _ _ h]
    have hplace : ∀ ring, (c.enlist lane config ring).place dir c.substreams.length =
        (c.only dir).substreams.length := fun ring => by
      simp [only, place, enlist, showRing, record, countIn, List.countP_eq_length_filter]
    exact congrArg (fun n => (Except.ok n, _)) (hplace _).symm

section

variable (h : c.Lies dir id)

include h

/-- **Closing** does the same if there is only the direction. -/
theorem close_only :
    PcmDriver.close (c.place dir id) (c.only dir) = (PcmDriver.close id c).only dir := by
  obtain ⟨s, hs, hfaces⟩ := h
  simp only [PcmDriver.close, close, hs, getElem?_only hs hfaces]
  rw [only_record _ _ hfaces, only_countOut, only_put hs hfaces]
  rfl

/-- A transfer does the same if there is only its direction: the checks before it look at its own
substream, and so does what moves. -/
theorem transfer_only {α : Type} (length : Nat) {move : Substream → α × Substream}
    (hmove : ∀ s, (move s).2.lane = s.lane) :
    (c.only dir).orStopped ((c.only dir).transfer? (c.place dir id) length move) =
      ((c.orStopped (c.transfer? id length move)).1,
        (c.orStopped (c.transfer? id length move)).2.only dir) := by
  obtain ⟨s, hs, hfaces⟩ := h
  have hobstacle : (c.only dir).obstacle? s length = c.obstacle? s length := rfl
  have hs' := hs
  rw [← substreams_ensureRunning c s] at hs'
  simp only [transfer?, hs, getElem?_only hs hfaces, hobstacle]
  split
  next => rfl
  next =>
    split
    next => rfl
    next =>
      have hput := only_put hs' hfaces (hmove { s with running := true })
      rw [only_ensureRunning c hfaces, place_ensureRunning] at hput
      exact congrArg (Prod.mk _) hput.symm

/-- **Writing** does the same if there is only its direction. -/
theorem write_only (bytes : List UInt8) :
    PcmDriver.write (c.place dir id) bytes (c.only dir) =
      ((PcmDriver.write id bytes c).1, (PcmDriver.write id bytes c).2.only dir) :=
  transfer_only h bytes.length fun _ => rfl

/-- **Reading** does the same if there is only its direction. -/
theorem read_only (length : Nat) :
    PcmDriver.read (c.place dir id) length (c.only dir) =
      ((PcmDriver.read id length c).1, (PcmDriver.read id length c).2.only dir) :=
  transfer_only h length fun _ => rfl

end

/-! ## In the other direction -/

/-- Opening in the other direction is not seen. -/
theorem only_acquire_of_not (card : Nat) {lane : Lane} (h : lane.faces dir = false)
    (flags : PcmFlags) (config : PcmConfig) (c : SoftCard) :
    (PcmDriver.acquire card lane flags config c).2.only dir = c.only dir := by
  rcases acquire_cases card lane flags config c with ⟨-, hacquire⟩ | ⟨-, hacquire⟩
  · rw [hacquire]
  · rw [hacquire]
    exact only_enlist_of_not _ _ _ h

section

variable {dir' : Direction} (h : c.Lies dir' id) (hne : dir ≠ dir')

include h hne

/-- Closing in the other direction is not seen. -/
theorem only_close_of_not : (PcmDriver.close id c).only dir = c.only dir := by
  obtain ⟨s, hs, hfaces⟩ := h.not hne
  simp only [PcmDriver.close, close, hs]
  rw [only_record_of_not _ _ hfaces, only_countOut_of_not _ hfaces, only_put_of_not hs hfaces]
  rfl

/-- A transfer in the other direction is not seen. -/
theorem only_transferred_of_not (hs : c.substreams[id]? = some s) (hlane : s'.lane = s.lane) :
    ((c.ensureRunning s).put id s').only dir = c.only dir := by
  obtain ⟨t, ht, hfaces⟩ := h.not hne
  obtain rfl := Option.some.inj (hs.symm.trans ht)
  rw [← substreams_ensureRunning c s] at hs
  rw [only_put_of_not hs hfaces hlane, only_ensureRunning_of_not c hfaces]

theorem only_write_of_not (bytes : List UInt8) :
    (PcmDriver.write id bytes c).2.only dir = c.only dir := by
  rcases write_cases id bytes c with ⟨e, hwrite⟩ | ⟨s, hs, -, -, hwrite⟩
  · rw [hwrite]
  · rw [hwrite]
    exact only_transferred_of_not h hne hs rfl

theorem only_read_of_not (length : Nat) :
    (PcmDriver.read id length c).2.only dir = c.only dir := by
  rcases read_cases id length c with ⟨e, hread⟩ | ⟨s, hs, -, -, hread⟩
  · rw [hread]
  · rw [hread]
    exact only_transferred_of_not h hne hs rfl

end

/-! ## The rings -/

/-- The ring at hand for a lane, by its turn there. -/
theorem ring?_eq (c : SoftCard) (lane : Lane) :
    c.ring? lane = (c.rings.lookup lane).bind fun n =>
      ((c.substreams.filter (·.lane = lane))[n]?).map (·.ring) := by
  rw [ring?, atHand?, Option.bind_assoc, Option.map_bind]
  refine Option.bind_congr fun n _ => ?_
  exact congrArg (Option.map (·.ring)) (getElem?_filter_range c.substreams _ n)

/-- A lane is in one direction, and so is its ring. -/
theorem ring?_only (c : SoftCard) (lane : Lane) :
    (c.only lane.direction).ring? lane = c.ring? lane := by
  have hfaces : ∀ s : Substream, (decide (s.lane = lane) && s.faces lane.direction) =
      decide (s.lane = lane) := fun s => by
    rw [Bool.and_eq_left_iff_imp]
    intro hlane
    rw [Substream.faces, of_decide_eq_true hlane]
    exact decide_eq_true rfl
  have hlane : lane.faces lane.direction = true := decide_eq_true rfl
  rw [ring?_eq, ring?_eq]
  simp only [only]
  rw [List.filter_filter, lookup_filter hlane]
  simp only [hfaces]

end SoftCard

end HandsetAudio
