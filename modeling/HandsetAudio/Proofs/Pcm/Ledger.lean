import HandsetAudio.Pcm.SoftCard
import Mathlib.Data.Multiset.Basic
import Mathlib.Data.Multiset.Count
import Mathlib.Algebra.BigOperators.Group.Multiset.Basic

/-!
# Accounts of substreams

`PcmLedger` is what can be told of a card besides driving it: which substreams are open,
how many on each lane, and the opens and closes so far. On a card whose driver keeps to it
(`LawfulLedger`), whoever owns all open substreams can account for them (`Accounts`) from
one call to the next. A `Trade` goes from one such account to another, and tells what was
opened and closed on the way.
-/

namespace HandsetAudio

/-- What can be told of the substreams of a card. -/
class PcmLedger (σ : Type) where
  /-- A substream is open on a lane. -/
  IsOpen : σ → SubstreamId → Lane → Prop
  /-- How many substreams are open on a lane: opens less closes. -/
  openCount : σ → Lane → Int
  /-- Opens and closes, oldest first; opens that failed may be among them. -/
  moves : σ → List PcmEvent

namespace PcmLedger

variable {σ : Type} [PcmLedger σ]

/-- What is open on `c` is what is open on `c'`. -/
structure Keeps (c c' : σ) : Prop where
  isOpen : ∀ id lane, IsOpen c id lane → IsOpen c' id lane
  openCount : ∀ lane, openCount c' lane = openCount c lane

/-- Nothing is opened or closed from `c` to `c'`. -/
structure Calm (c c' : σ) : Prop extends Keeps c c' where
  moves : moves c' = moves c

/-- What stays open on the way is open in the end. -/
theorem Keeps.trans {c c' c'' : σ} (h : Keeps c c') (h' : Keeps c' c'') : Keeps c c'' where
  isOpen id lane hopen := h'.isOpen id lane (h.isOpen id lane hopen)
  openCount lane := (h'.openCount lane).trans (h.openCount lane)

theorem Calm.refl (c : σ) : Calm c c := ⟨⟨fun _ _ h => h, fun _ => rfl⟩, rfl⟩

/-- Calls that open and close nothing, one after the other. -/
theorem Calm.trans {c c' c'' : σ} (h : Calm c c') (h' : Calm c' c'') : Calm c c'' :=
  ⟨h.toKeeps.trans h'.toKeeps, h'.moves.trans h.moves⟩

/-- The substream `id` is opened on `lane`. -/
structure Opens (c : σ) (id : SubstreamId) (lane : Lane) (c' : σ) : Prop where
  isOpen : IsOpen c' id lane
  others : ∀ id' lane', IsOpen c id' lane' → id' ≠ id ∧ IsOpen c' id' lane'
  openCount : ∀ lane', openCount c' lane' = openCount c lane' + if lane = lane' then 1 else 0
  moves : moves c' = moves c ++ [⟨.opened, lane⟩]

/-- A substream is not opened on `lane`. -/
structure Fails (c : σ) (lane : Lane) (c' : σ) : Prop extends Keeps c c' where
  moves : moves c' = moves c ∨ moves c' = moves c ++ [⟨.opened, lane⟩]

/-- The substream `id`, open on `lane`, is closed. -/
structure Closes (c : σ) (id : SubstreamId) (lane : Lane) (c' : σ) : Prop where
  others : ∀ id' lane', id' ≠ id → IsOpen c id' lane' → IsOpen c' id' lane'
  openCount : ∀ lane', openCount c' lane' = openCount c lane' - if lane = lane' then 1 else 0
  moves : moves c' = moves c ++ [⟨.closed, lane⟩]

end PcmLedger

/-- A driver that keeps to the ledger of its card. -/
class LawfulLedger (σ : Type) [PcmDriver σ] [PcmLedger σ] : Prop where
  acquire_ok : ∀ {card : Nat} {lane : Lane} {flags : PcmFlags} {config : PcmConfig}
    {id : SubstreamId} {c c' : σ}, PcmDriver.acquire card lane flags config c = (.ok id, c') →
    PcmLedger.Opens c id lane c'
  acquire_error : ∀ {card : Nat} {lane : Lane} {flags : PcmFlags} {config : PcmConfig}
    {e : PcmError} {c c' : σ}, PcmDriver.acquire card lane flags config c = (.error e, c') →
    PcmLedger.Fails c lane c'
  close : ∀ {id : SubstreamId} {lane : Lane} {c : σ}, PcmLedger.IsOpen c id lane →
    PcmLedger.Closes c id lane (PcmDriver.close id c)
  start : ∀ (id : SubstreamId) (c : σ), PcmLedger.Calm c (PcmDriver.start id c).2
  stop : ∀ (id : SubstreamId) (c : σ), PcmLedger.Calm c (PcmDriver.stop id c).2
  write : ∀ (id : SubstreamId) (bytes : List UInt8) (c : σ),
    PcmLedger.Calm c (PcmDriver.write id bytes c).2
  read : ∀ (id : SubstreamId) (length : Nat) (c : σ),
    PcmLedger.Calm c (PcmDriver.read id length c).2
  avail : ∀ (id : SubstreamId) (c : σ), PcmLedger.Calm c (PcmDriver.avail id c).2

/-- Substreams with the lanes they are open on. -/
abbrev Holdings := Multiset (SubstreamId × Lane)

/-- One substream on a lane, or none. -/
def holding (id : Option SubstreamId) (lane : Lane) : Holdings := id.elim 0 fun id => {(id, lane)}

@[simp] theorem holding_none (lane : Lane) : holding none lane = 0 := rfl

@[simp] theorem holding_some (id : SubstreamId) (lane : Lane) :
    holding (some id) lane = {(id, lane)} := rfl

/-- How many of the substreams are on a lane. -/
def Holdings.on (owned : Holdings) (lane : Lane) : Nat := owned.countP fun s => s.2 = lane

namespace Holdings

@[simp] theorem on_zero (lane : Lane) : Holdings.on 0 lane = 0 := Multiset.countP_zero _

@[simp] theorem on_add (owned owned' : Holdings) (lane : Lane) :
    Holdings.on (owned + owned') lane = Holdings.on owned lane + Holdings.on owned' lane :=
  Multiset.countP_add _ _ _

/-- A substream counts on its own lane. -/
theorem on_singleton (id : SubstreamId) (lane lane' : Lane) :
    Holdings.on {(id, lane)} lane' = if lane = lane' then 1 else 0 := by
  rw [Holdings.on, ← Multiset.cons_zero, Multiset.countP_cons, Multiset.countP_zero, Nat.zero_add]

/-- One substream, or none, counts on its own lane. -/
theorem on_holding (id : Option SubstreamId) (lane lane' : Lane) :
    Holdings.on (holding id lane) lane' = if lane = lane' then id.toList.length else 0 := by
  cases id with
  | none => split <;> rfl
  | some id => exact on_singleton id lane lane'

end Holdings

namespace PcmLedger

variable {σ : Type} [PcmLedger σ]

/-- All open substreams are owned, each once. -/
structure Accounts (c : σ) (owned : Holdings) : Prop where
  isOpen : ∀ s ∈ owned, IsOpen c s.1 s.2
  distinct : (owned.map Prod.fst).Nodup
  openCount : ∀ lane, openCount c lane = owned.on lane

/-- From an account of `owned` on `c` to one of `owned'` on `c'`, with the opens and closes on
the way. -/
def Trade (c : σ) (owned : Holdings) (moved : List PcmEvent) (c' : σ) (owned' : Holdings) : Prop :=
  Accounts c owned → Accounts c' owned' ∧ moves c' = moves c ++ moved

section

variable {c c' c'' : σ} {owned owned' owned'' : Holdings} {moved moved' : List PcmEvent}

/-- Trades in a row move what each of them moves, in that order. -/
theorem Trade.trans (h : Trade c owned moved c' owned')
    (h' : Trade c' owned' moved' c'' owned'') : Trade c owned (moved ++ moved') c'' owned'' := by
  intro haccounts
  obtain ⟨hmiddle, hmoves⟩ := h haccounts
  obtain ⟨hlast, hmoves'⟩ := h' hmiddle
  exact ⟨hlast, by rw [hmoves', hmoves, List.append_assoc]⟩

/-- An account is good as long as nothing is opened or closed. -/
theorem Accounts.keeps (h : Accounts c owned) (hkeeps : Keeps c c') : Accounts c' owned where
  isOpen s hs := hkeeps.isOpen _ _ (h.isOpen s hs)
  distinct := h.distinct
  openCount lane := (hkeeps.openCount lane).trans (h.openCount lane)

/-- A call that opens and closes nothing is a trade. -/
theorem Calm.trade (h : Calm c c') (owned : Holdings) : Trade c owned [] c' owned :=
  fun haccounts => ⟨haccounts.keeps h.toKeeps, by rw [h.moves, List.append_nil]⟩

/-- A substream that is opened is owned from then on. -/
theorem Opens.trade {id : SubstreamId} {lane : Lane} (h : Opens c id lane c') (owned : Holdings) :
    Trade c owned [⟨.opened, lane⟩] c' ({(id, lane)} + owned) := by
  intro haccounts
  refine ⟨⟨fun s hs => ?_, ?_, fun lane' => ?_⟩, h.moves⟩
  · rcases Multiset.mem_add.1 hs with hnew | hold
    · rw [Multiset.mem_singleton.1 hnew]
      exact h.isOpen
    · exact (h.others _ _ (haccounts.isOpen s hold)).2
  · rw [Multiset.singleton_add, Multiset.map_cons, Multiset.nodup_cons]
    refine ⟨fun hmem => ?_, haccounts.distinct⟩
    -- a number that is in use is not given out again
    obtain ⟨s, hs, hid⟩ := Multiset.mem_map.1 hmem
    exact (h.others _ _ (haccounts.isOpen s hs)).1 hid
  · rw [h.openCount, haccounts.openCount, Holdings.on_add, Holdings.on_singleton]
    split <;> omega

/-- A failed open brings nothing to own, though it may be recorded as an attempt. -/
theorem Fails.trade {lane : Lane} (h : Fails c lane c') (owned : Holdings) :
    ∃ moved, (∀ e ∈ moved, e = ⟨.opened, lane⟩) ∧ Trade c owned moved c' owned := by
  rcases h.moves with hmoves | hmoves
  · exact ⟨[], by simp, fun ha => ⟨ha.keeps h.toKeeps, by rw [hmoves, List.append_nil]⟩⟩
  · exact ⟨[⟨.opened, lane⟩], by simp, fun ha => ⟨ha.keeps h.toKeeps, hmoves⟩⟩

end

/-- A trade all of whose moves are as `P` says. -/
def Deal (P : PcmEvent → Prop) (c : σ) (owned : Holdings) (c' : σ) (owned' : Holdings) : Prop :=
  ∃ moved, (∀ e ∈ moved, P e) ∧ Trade c owned moved c' owned'

section

variable {P Q : PcmEvent → Prop} {c c' c'' : σ} {owned owned' owned'' : Holdings}
  {id : SubstreamId} {lane : Lane}

/-- An account goes along with a deal. -/
theorem Deal.accounts (h : Deal P c owned c' owned') (haccounts : Accounts c owned) :
    Accounts c' owned' := by
  obtain ⟨moved, -, htrade⟩ := h
  exact (htrade haccounts).1

/-- Moves may be told less precisely. -/
theorem Deal.mono (h : Deal P c owned c' owned') (hPQ : ∀ e, P e → Q e) :
    Deal Q c owned c' owned' := by
  obtain ⟨moved, hmoved, htrade⟩ := h
  exact ⟨moved, fun e he => hPQ e (hmoved e he), htrade⟩

/-- Deals in a row, with moves of the same kind. -/
theorem Deal.trans (h : Deal P c owned c' owned') (h' : Deal P c' owned' c'' owned'') :
    Deal P c owned c'' owned'' := by
  obtain ⟨moved, hmoved, htrade⟩ := h
  obtain ⟨moved', hmoved', htrade'⟩ := h'
  refine ⟨moved ++ moved', fun e he => ?_, htrade.trans htrade'⟩
  rcases List.mem_append.1 he with he | he
  · exact hmoved e he
  · exact hmoved' e he

theorem Calm.deal (h : Calm c c') (owned : Holdings) : Deal P c owned c' owned :=
  ⟨[], fun _ he => (nomatch he), h.trade owned⟩

/-- Opening is a deal in which substreams are opened on its lane. -/
theorem Opens.deal (h : Opens c id lane c') (hP : P ⟨.opened, lane⟩) (owned : Holdings) :
    Deal P c owned c' ({(id, lane)} + owned) :=
  ⟨_, fun e he => by rwa [List.mem_singleton.1 he], h.trade owned⟩

/-- So is an open that fails. -/
theorem Fails.deal (h : Fails c lane c') (hP : P ⟨.opened, lane⟩) (owned : Holdings) :
    Deal P c owned c' owned := by
  obtain ⟨moved, hmoved, htrade⟩ := h.trade owned
  exact ⟨moved, fun e he => by rwa [hmoved e he], htrade⟩

end

variable [PcmDriver σ] [LawfulLedger σ]

/-- Who owns a substream can close it. -/
theorem trade_close (c : σ) (id : SubstreamId) (lane : Lane) (owned : Holdings) :
    Trade c ({(id, lane)} + owned) [⟨.closed, lane⟩] (PcmDriver.close id c) owned := by
  intro haccounts
  have hmem : (id, lane) ∈ {(id, lane)} + owned :=
    Multiset.mem_add.2 (.inl (Multiset.mem_singleton_self _))
  have hcloses := LawfulLedger.close (haccounts.isOpen _ hmem)
  have hdistinct := haccounts.distinct
  rw [Multiset.singleton_add, Multiset.map_cons, Multiset.nodup_cons] at hdistinct
  refine ⟨⟨fun s hs => ?_, hdistinct.2, fun lane' => ?_⟩, hcloses.moves⟩
  · have hne : s.1 ≠ id := by
      intro hid
      have hold := Multiset.mem_map_of_mem Prod.fst hs
      rw [hid] at hold
      exact hdistinct.1 hold
    exact hcloses.others _ _ hne (haccounts.isOpen s (Multiset.mem_add.2 (.inr hs)))
  · rw [hcloses.openCount, haccounts.openCount, Holdings.on_add, Holdings.on_singleton]
    split <;> omega

/-- Closing is a deal for whoever owns the substream. -/
theorem deal_close {P : PcmEvent → Prop} (c : σ) (id : SubstreamId) {lane : Lane}
    (hP : P ⟨.closed, lane⟩) (owned : Holdings) :
    Deal P c ({(id, lane)} + owned) (PcmDriver.close id c) owned :=
  ⟨_, fun e he => by rwa [List.mem_singleton.1 he], trade_close c id lane owned⟩

end PcmLedger

end HandsetAudio
