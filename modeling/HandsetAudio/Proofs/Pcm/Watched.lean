import HandsetAudio.Pcm.Basic

/-!
# A card under observation

A card need not tell what was asked of it, and it may give out one number twice. `Watched`
stands before any card: it passes every call on, numbers the substreams in the order in which
they were opened, and records what is done to each with the outcome. `story` is what happened
to one substream so far.
-/

namespace HandsetAudio

namespace Watched

/-- What is done to a substream. Transfers are not told. -/
inductive Act where
  /-- It is opened on a lane. -/
  | opened (lane : Lane)
  /-- It is started, or cannot be. -/
  | started (ok : Bool)
  /-- It is stopped, or cannot be. -/
  | stopped (ok : Bool)
  /-- It is closed. -/
  | closed
  deriving DecidableEq

/-- An entry of the record. -/
inductive Note where
  /-- Something is done to a substream. -/
  | done (id : SubstreamId) (act : Act)
  /-- No substream could be opened. -/
  | refused (lane : Lane)
  deriving DecidableEq

namespace Note

/-- The entry is about a call that failed. -/
def failed : Note → Bool
  | .refused _ => true
  | .done _ (.started ok) | .done _ (.stopped ok) => !ok
  | .done _ _ => false

/-- What the entry tells of a substream. -/
def tells (id : SubstreamId) : Note → Option Act
  | .done id' act => if id' = id then some act else none
  | .refused _ => none

end Note

/-- What some entries tell of a substream. -/
def told (notes : List Note) (id : SubstreamId) : List Act := notes.filterMap (Note.tells id)

/-- What is told of a substream, in the order of the notes. -/
theorem told_append (notes notes' : List Note) (id : SubstreamId) :
    told (notes ++ notes') id = told notes id ++ told notes' id := List.filterMap_append

@[simp] theorem told_nil (id : SubstreamId) : told [] id = [] := rfl

@[simp] theorem told_cons (n : Note) (notes : List Note) (id : SubstreamId) :
    told (n :: notes) id = (n.tells id).toList ++ told notes id := by
  rw [told, List.filterMap_cons]
  cases n.tells id <;> rfl

/-- A whole life: opened, then started and stopped, closed once at the end. -/
def Finished (story : List Act) : Prop :=
  ∃ lane middle, story = .opened lane :: (middle ++ [.closed]) ∧
    ∀ act ∈ middle, ∃ ok, act = .started ok ∨ act = .stopped ok

/-- Open on a lane and started. -/
def Running (lane : Lane) (story : List Act) : Prop := story = [.opened lane, .started true]

/-- What runs has a whole life once it is closed, stopped before or not. -/
theorem Running.finished {lane : Lane} {story : List Act} (h : Running lane story)
    {stops : List Act} (hstops : ∀ act ∈ stops, ∃ ok, act = .stopped ok) :
    Finished (story ++ (stops ++ [.closed])) := by
  refine ⟨lane, .started true :: stops, by rw [h]; rfl, ?_⟩
  intro act hact
  rcases List.mem_cons.1 hact with rfl | hact
  · exact ⟨true, .inl rfl⟩
  · obtain ⟨ok, hok⟩ := hstops act hact
    exact ⟨ok, .inr hok⟩

end Watched

/-- A card with a record of what is asked of it. -/
structure Watched (σ : Type) where
  /-- The card. -/
  card : σ
  /-- The card's own number of each substream that it opened. -/
  own : List SubstreamId := []
  /-- What was asked for, oldest first. -/
  record : List Watched.Note := []

namespace Watched

variable {σ : Type} (w : Watched σ)

/-- How many substreams were ever opened, and the number of the next one. -/
def opened : Nat := w.own.length

/-- What happened to a substream. -/
def story (id : SubstreamId) : List Act := told w.record id

/-- The number by which the card knows a substream. -/
def ownId (id : SubstreamId) : SubstreamId := w.own[id]?.getD id

/-- The card after a call, with an entry about it. -/
def note (c : σ) (n : Note) : Watched σ := { w with card := c, record := w.record ++ [n] }

variable [PcmDriver σ]

instance : PcmDriver (Watched σ) where
  acquire card lane flags config w :=
    match PcmDriver.acquire card lane flags config w.card with
    | (.ok id, c) => (.ok w.opened, { w.note c (.done w.opened (.opened lane)) with
        own := w.own ++ [id] })
    | (.error e, c) => (.error e, w.note c (.refused lane))
  start id w :=
    let (answer, c) := PcmDriver.start (w.ownId id) w.card
    (answer, w.note c (.done id (.started answer.isOk)))
  stop id w :=
    let (answer, c) := PcmDriver.stop (w.ownId id) w.card
    (answer, w.note c (.done id (.stopped answer.isOk)))
  write id bytes w :=
    let (answer, c) := PcmDriver.write (w.ownId id) bytes w.card
    (answer, { w with card := c })
  read id length w :=
    let (answer, c) := PcmDriver.read (w.ownId id) length w.card
    (answer, { w with card := c })
  avail id w :=
    let (answer, c) := PcmDriver.avail (w.ownId id) w.card
    (answer, { w with card := c })
  bufferSize id w := PcmDriver.bufferSize (w.ownId id) w.card
  patience id w := PcmDriver.patience (w.ownId id) w.card
  close id w := w.note (PcmDriver.close (w.ownId id) w.card) (.done id .closed)

/-! ## What the calls record -/

omit [PcmDriver σ] in
/-- From `w` to `w'` some entries are added, and substreams with these numbers of the card. -/
structure Adds (w : Watched σ) (notes : List Note) (own : List SubstreamId) (w' : Watched σ) :
    Prop where
  record : w'.record = w.record ++ notes
  own : w'.own = w.own ++ own

section

omit [PcmDriver σ]

variable {w} {w' w'' : Watched σ} {notes notes' : List Note} {own own' : List SubstreamId}

theorem Adds.refl (w : Watched σ) : w.Adds [] [] w :=
  ⟨(List.append_nil _).symm, (List.append_nil _).symm⟩

/-- Calls in a row note what each of them does. -/
theorem Adds.trans (h : w.Adds notes own w') (h' : w'.Adds notes' own' w'') :
    w.Adds (notes ++ notes') (own ++ own') w'' where
  record := by rw [h'.record, h.record, List.append_assoc]
  own := by rw [h'.own, h.own, List.append_assoc]

theorem Adds.opened (h : w.Adds notes own w') : w'.opened = w.opened + own.length := by
  rw [Watched.opened, h.own, List.length_append]
  rfl

/-- The story of a substream goes on with the new notes. -/
theorem Adds.story (h : w.Adds notes own w') (id : SubstreamId) :
    w'.story id = w.story id ++ told notes id := by
  rw [Watched.story, h.record, told_append]
  rfl

/-- A name stands for the same substream until something is opened. -/
theorem Adds.ownId (h : w.Adds notes [] w') (id : SubstreamId) : w'.ownId id = w.ownId id := by
  rw [Watched.ownId, h.own, List.append_nil, Watched.ownId]

/-- The card's numbers of new substreams. -/
theorem Adds.ownId_new (h : w.Adds notes own w') (i : Nat) {id : SubstreamId}
    (hid : own[i]? = some id) : w'.ownId (w.opened + i) = id := by
  have hget : w'.own[w.opened + i]? = own[i]? := by
    rw [h.own, Watched.opened, List.getElem?_append_right (Nat.le_add_right _ _),
      Nat.add_sub_cancel_left]
  rw [Watched.ownId, hget, hid, Option.getD_some]

end

/-- An open is one of the card, with the number of the substream for the card's own. -/
theorem acquire_cases (card : Nat) (lane : Lane) (flags : PcmFlags) (config : PcmConfig) :
    (∃ e w', PcmDriver.acquire card lane flags config w = (.error e, w') ∧
      PcmDriver.acquire card lane flags config w.card = (.error e, w'.card) ∧
      w.Adds [.refused lane] [] w') ∨
    ∃ id w', PcmDriver.acquire card lane flags config w = (.ok w.opened, w') ∧
      PcmDriver.acquire card lane flags config w.card = (.ok id, w'.card) ∧
      w.Adds [.done w.opened (.opened lane)] [id] w' := by
  simp only [PcmDriver.acquire]
  rcases PcmDriver.acquire card lane flags config w.card with ⟨e | id, c⟩
  · exact .inl ⟨e, _, rfl, rfl, rfl, (List.append_nil _).symm⟩
  · exact .inr ⟨id, _, rfl, rfl, rfl, rfl⟩

/-- A start is noted, with the answer that the card gave. -/
theorem start_spec (id : SubstreamId) : ∃ answer w', PcmDriver.start id w = (answer, w') ∧
    PcmDriver.start (w.ownId id) w.card = (answer, w'.card) ∧
    w.Adds [.done id (.started answer.isOk)] [] w' :=
  ⟨_, _, rfl, rfl, rfl, (List.append_nil _).symm⟩

/-- So is a stop. -/
theorem stop_spec (id : SubstreamId) : ∃ answer w', PcmDriver.stop id w = (answer, w') ∧
    PcmDriver.stop (w.ownId id) w.card = (answer, w'.card) ∧
    w.Adds [.done id (.stopped answer.isOk)] [] w' :=
  ⟨_, _, rfl, rfl, rfl, (List.append_nil _).symm⟩

theorem card_close (id : SubstreamId) :
    (PcmDriver.close id w).card = PcmDriver.close (w.ownId id) w.card := rfl

/-- A close is noted, and has no answer. -/
theorem Adds.close {w w' : Watched σ} {notes : List Note} {own : List SubstreamId}
    (h : w.Adds notes own w') (id : SubstreamId) :
    w.Adds (notes ++ [.done id .closed]) own (PcmDriver.close id w') where
  record := by
    rw [← List.append_assoc, ← h.record]
    rfl
  own := h.own

end Watched

end HandsetAudio
