import HandsetAudio.Proofs.Mixer.Slots
import Mathlib.Data.List.Induction

/-!
# The journal of a mixer

A mixer stores values by the place of a control, and its journal tells of them by the control's
name. As long as no two controls share a name, the one can be had from the other:

> `Journaled.use`: whatever a mixer is asked for, entering the journal into its controls, all slots
> at zero, gives the controls.
> `journal_replays`: so it is from the first control that is registered on, and which writes are
> accepted is known from what was registered, and refused since.

Entries are entered control by control (`replay_eq_map`), so a step of a run is looked at for one
control at a time: the one that it is about, and all others.
-/

namespace HandsetAudio

/-! ## Entering a journal -/

namespace Control

/-- The control after an entry of a journal, which may be about another one. -/
def enter (c : Control) (e : MixerWrite) : Control :=
  if c.name = e.name then { c with values := c.values.set e.slot e.value } else c

/-- The control as it was when it was registered. -/
def asNew (c : Control) : Control := { c.blank with refusesWrites := false }

variable (c : Control) (journal : List MixerWrite)

@[simp] theorem name_enter (e : MixerWrite) : (c.enter e).name = c.name := by
  unfold enter
  split <;> rfl

/-- A journal that does not name the control does not change it. -/
theorem replay_of_not_named (h : ∀ e ∈ journal, e.name ≠ c.name) : journal.foldl enter c = c := by
  induction journal with
  | nil => rfl
  | cons e journal ih =>
    have hother : c.enter e = c := if_neg fun heq => h e List.mem_cons_self heq.symm
    rw [List.foldl_cons, hother, ih fun e he => h e (List.mem_cons_of_mem _ he)]

/-- A control that refuses writes has its journal entered like any other. -/
theorem replay_refusing : journal.foldl enter { c with refusesWrites := true } =
    { journal.foldl enter c with refusesWrites := true } := by
  induction journal generalizing c with
  | nil => rfl
  | cons e journal ih =>
    have hstep : ({ c with refusesWrites := true } : Control).enter e =
        { c.enter e with refusesWrites := true } := by
      unfold enter
      split <;> rfl
    rw [List.foldl_cons, List.foldl_cons, hstep, ih]

@[simp] theorem blank_enter (e : MixerWrite) : (c.enter e).blank = c.blank := by
  unfold enter
  split
  next => exact c.blank_store _ List.length_set
  next => rfl

@[simp] theorem refusesWrites_enter (e : MixerWrite) :
    (c.enter e).refusesWrites = c.refusesWrites := by
  unfold enter
  split <;> rfl

@[simp] theorem asNew_enter (e : MixerWrite) : (c.enter e).asNew = c.asNew := by
  rw [asNew, blank_enter, asNew]

/-- A control that is as it was registered has zeros in its slots and refuses nothing. -/
theorem blank_of_asNew {c : Control} (h : c.asNew = c) : c.blank = c ∧ c.refusesWrites = false := by
  have hrefuses : c.refusesWrites = false := (congrArg Control.refusesWrites h).symm
  refine ⟨?_, hrefuses⟩
  conv_rhs => rw [← h]
  rw [asNew, ← hrefuses]
  rfl

end Control

namespace Mixer

/-- The controls after the entries of a journal, oldest first. -/
def replay (controls : List Control) (journal : List MixerWrite) : List Control :=
  journal.foldl (fun controls e => controls.map (·.enter e)) controls

/-- Entries are entered control by control. -/
theorem replay_eq_map (controls : List Control) (journal : List MixerWrite) :
    replay controls journal = controls.map fun c => journal.foldl Control.enter c := by
  induction journal generalizing controls with
  | nil => exact (List.map_id controls).symm
  | cons e journal ih =>
    rw [replay, List.foldl_cons, ← replay, ih, List.map_map]
    rfl

/-! ## Uses of a mixer -/

/-- What a mixer can be asked for. -/
inductive Use where
  | addSwitch (name : String) (slots : Nat)
  | addLevel (name : String) (slots : Nat) (max : Int)
  | addChoice (name : String) (choices : List String)
  /-- Let a control refuse every write from now on. -/
  | refuse (name : String)
  | set (w : SlotWrite)
  deriving DecidableEq, Repr

/-- The mixer after a use. -/
def use (m : Mixer) : Use → Mixer
  | .addSwitch name slots => m.addSwitch name slots
  | .addLevel name slots max => m.addLevel name slots max
  | .addChoice name choices => m.addChoice name choices
  | .refuse name => m.refuseWrites name
  | .set w => m.put w

/-- A mixer without controls after several uses. -/
def used (uses : List Use) : Mixer := uses.foldl use {}

/-- The control that a use registers. -/
def Use.registers? : Use → Option Control
  | .addSwitch name slots =>
    some { name, kind := .switch, values := List.replicate (Max.max slots 1) 0, max := 1 }
  | .addLevel name slots max =>
    some { name, kind := .level, values := List.replicate (Max.max slots 1) 0, max }
  | .addChoice name choices =>
    some { name, kind := .choice, values := [0], max := choices.length - 1, choices }
  | .refuse _ | .set _ => none

/-- The controls that were registered, in that order. -/
def registered (uses : List Use) : List Control := uses.filterMap Use.registers?

/-- Writes to a control were refused since some time after it was registered. -/
def Refused (uses : List Use) (name : String) : Prop :=
  ∃ before after, uses = before ++ .refuse name :: after ∧ name ∈ (registered before).map (·.name)

/-- What one more use does. -/
inductive Step (m : Mixer) (u : Use) : Prop
  /-- It registers a control, and that is all. -/
  | registers (c : Control) (registers : u.registers? = some c) (new : c.asNew = c)
    (use_eq : m.use u = { m with controls := m.controls ++ [c] })
  /-- It lets the first control of a name refuse writes. -/
  | refuses (name : String) (use : u = .refuse name) (registers : u.registers? = none)
  /-- It asks for a write. -/
  | writes (w : SlotWrite) (use : u = .set w) (registers : u.registers? = none)

theorem step (m : Mixer) (u : Use) : m.Step u := by
  have hnew : ∀ (name : String) (kind : ControlKind) (n : Nat) (max : Int) (choices : List String),
      let c : Control := { name, kind, values := List.replicate n 0, max, choices }
      c.asNew = c := by
    intro name kind n max choices c
    simp [Control.asNew, Control.blank, c]
  cases u with
  | addSwitch name slots => exact .registers _ rfl (hnew ..) rfl
  | addLevel name slots max => exact .registers _ rfl (hnew ..) rfl
  | addChoice name choices => exact .registers _ rfl (hnew _ _ 1 _ _) rfl
  | refuse name => exact .refuses name rfl rfl
  | set w => exact .writes w rfl rfl

theorem used_concat (uses : List Use) (u : Use) : used (uses ++ [u]) = (used uses).use u :=
  List.foldl_concat ..

theorem registered_concat (uses : List Use) (u : Use) :
    registered (uses ++ [u]) = registered uses ++ u.registers?.toList := by
  rw [registered, List.filterMap_append, ← registered]
  cases h : u.registers? <;> simp [h]

/-- The last use is the refusal, or it was refused before. -/
theorem refused_concat {uses : List Use} {u : Use} {name : String} :
    Refused (uses ++ [u]) name ↔
      Refused uses name ∨ u = .refuse name ∧ name ∈ (registered uses).map (·.name) := by
  constructor
  · rintro ⟨before, after, huses, hmem⟩
    rcases List.eq_nil_or_concat after with rfl | ⟨after, last, rfl⟩
    · obtain ⟨rfl, hlast⟩ := List.append_inj' huses rfl
      exact .inr ⟨List.singleton_inj.1 hlast, hmem⟩
    · rw [List.concat_eq_append, ← List.cons_append, ← List.append_assoc] at huses
      obtain ⟨rfl, -⟩ := List.append_inj' huses rfl
      exact .inl ⟨before, after, rfl, hmem⟩
  · rintro (⟨before, after, rfl, hmem⟩ | ⟨rfl, hmem⟩)
    · exact ⟨before, after ++ [u], by simp, hmem⟩
    · exact ⟨uses, [], rfl, hmem⟩

/-! ## One use -/

/-- Where all names differ, changing what is at a place is changing what has its name. -/
theorem modify_eq_map {cs : List Control} (hnames : (cs.map (·.name)).Nodup) {i : Nat} {c : Control}
    (hc : cs[i]? = some c) (f : Control → Control) :
    cs.modify i f = cs.map fun d => if d.name = c.name then f d else d := by
  refine List.ext_getElem? fun j => ?_
  rw [List.getElem?_modify, List.getElem?_map]
  cases hd : cs[j]? with
  | none => rfl
  | some d =>
    -- the places are told apart by the names
    have hplace : d.name = c.name ↔ i = j := by
      constructor
      · intro hname
        have hnamed : ∀ {k : Nat} {b : Control}, cs[k]? = some b →
            (cs.map (·.name))[k]? = some b.name := by
          intro k b hb
          rw [List.getElem?_map, hb]
          rfl
        have hlt := (List.getElem?_eq_some_iff.1 (hnamed hc)).1
        refine (List.getElem?_inj hlt hnames).1 ?_
        rw [hnamed hc, hnamed hd, hname]
      · rintro rfl
        rw [Option.some.inj (hd.symm.trans hc)]
    simp only [Option.map_eq_map, Option.map_some, hplace]

section

variable {m : Mixer} (hnames : (m.controls.map (·.name)).Nodup)

include hnames

/-- Refusing writes to a name. -/
theorem controls_refuseWrites (name : String) : (m.refuseWrites name).controls =
    m.controls.map fun c => if c.name = name then { c with refusesWrites := true } else c := by
  unfold refuseWrites
  split
  next hnone =>
    have hother : ∀ c ∈ m.controls, c.name ≠ name := fun c hc =>
      ne_of_beq_false (List.findIdx?_eq_none_iff.1 hnone c hc)
    exact ((List.map_congr_left fun c hc => if_neg (hother c hc)).trans (List.map_id _)).symm
  next id hid =>
    obtain ⟨hlt, hname, -⟩ := List.findIdx?_eq_some_iff_getElem.1 hid
    rw [← eq_of_beq hname]
    exact modify_eq_map hnames (List.getElem?_eq_getElem hlt) _

/-- An accepted write is its entry, entered into the controls. -/
theorem controls_put {w : SlotWrite} {c : Control} (hc : m.controls[w.id]? = some c)
    (haccepts : m.Accepts w) :
    (m.put w).controls = m.controls.map (·.enter ⟨c.name, w.slot, w.value⟩) := by
  have hmodify := modify_eq_map hnames hc fun d => { d with values := d.values.set w.slot w.value }
  rw [List.modify_eq_set_getElem?, hc] at hmodify
  rw [put_of_accepts hc haccepts]
  exact hmodify

end

/-! ## Runs -/

/-- What is known of a mixer that was used so. -/
structure Journaled (m : Mixer) (uses : List Use) : Prop where
  /-- Entering the journal into a control without values gives the control. -/
  replays : ∀ c ∈ m.controls, m.journal.foldl Control.enter c.blank = c
  named : ∀ e ∈ m.journal, e.name ∈ m.controls.map (·.name)
  registered : m.controls.map Control.asNew = registered uses
  refuses : ∀ c ∈ m.controls, c.refusesWrites = true ↔ Refused uses c.name

section

variable {m : Mixer} {uses : List Use} {u : Use}

theorem Journaled.names (h : m.Journaled uses) :
    m.controls.map (·.name) = (Mixer.registered uses).map (·.name) := by
  rw [← h.registered, List.map_map]
  rfl

section

variable (h : m.Journaled uses)

include h

/-- A control of a new name joins the others, and no entry is about it. -/
theorem Journaled.register {c : Control} (hnew : c.asNew = c)
    (hname : c.name ∉ (Mixer.registered uses).map (·.name)) (hu : u.registers? = some c) :
    ({ m with controls := m.controls ++ [c] } : Mixer).Journaled (uses ++ [u]) := by
  obtain ⟨hblank, hrefuses⟩ := Control.blank_of_asNew hnew
  rw [← h.names] at hname
  have hu' : ∀ name, u ≠ .refuse name := by
    rintro name rfl
    cases hu
  refine ⟨fun d hd => ?_, fun e he => ?_, ?_, fun d hd => ?_⟩
  · rcases List.mem_append.1 hd with hold | hmem
    · exact h.replays d hold
    · -- an entry of its name would be one of a control that was there before
      rw [List.mem_singleton.1 hmem, hblank]
      refine c.replay_of_not_named _ fun e he heq => hname ?_
      rw [← heq]
      exact h.named e he
  · rw [List.map_append]
    exact List.mem_append_left _ (h.named e he)
  · rw [List.map_append, h.registered, registered_concat, hu, List.map_singleton, hnew]
    rfl
  · rw [refused_concat, or_iff_left fun hlast => hu' d.name hlast.1]
    rcases List.mem_append.1 hd with hold | hmem
    · exact h.refuses d hold
    · -- a refusal of its name came too early for it
      rw [List.mem_singleton.1 hmem, hrefuses]
      simp only [Bool.false_eq_true, false_iff]
      rintro ⟨before, after, rfl, hbefore⟩
      rw [h.names, Mixer.registered, List.filterMap_append, List.map_append] at hname
      exact hname (List.mem_append_left _ hbefore)

/-- A refusal is no entry, and no control but the named one refuses writes from then on. -/
theorem Journaled.refuseWrites (hnames : (m.controls.map (·.name)).Nodup) (name : String) :
    (m.refuseWrites name).Journaled (uses ++ [.refuse name]) := by
  have hcontrols := controls_refuseWrites hnames name
  have hjournal : (m.refuseWrites name).journal = m.journal := by
    unfold Mixer.refuseWrites
    split <;> rfl
  have hsame : ∀ c : Control,
      (if c.name = name then { c with refusesWrites := true } else c).name = c.name := by
    intro c
    split <;> rfl
  have hkept : (m.refuseWrites name).controls.map (·.name) = m.controls.map (·.name) := by
    rw [hcontrols, List.map_map]
    exact List.map_congr_left fun c _ => hsame c
  refine ⟨fun d hd => ?_, fun e he => ?_, ?_, fun d hd => ?_⟩
  · rw [hcontrols] at hd
    obtain ⟨c, hc, rfl⟩ := List.mem_map.1 hd
    rw [hjournal]
    split
    next => exact (c.blank.replay_refusing m.journal).trans (by rw [h.replays c hc])
    next => exact h.replays c hc
  · rw [hjournal] at he
    rw [hkept]
    exact h.named e he
  · rw [hcontrols, List.map_map, registered_concat, ← h.registered]
    refine (List.map_congr_left fun c _ => ?_).trans (List.append_nil _).symm
    simp only [Function.comp_apply]
    split <;> rfl
  · rw [hcontrols] at hd
    obtain ⟨c, hc, rfl⟩ := List.mem_map.1 hd
    have hmem : c.name ∈ (Mixer.registered uses).map (·.name) := by
      rw [← h.names]
      exact List.mem_map_of_mem hc
    rw [refused_concat, hsame, ← h.refuses c hc]
    split
    next hname => simp [hname, hname ▸ hmem]
    next hname => simp [Ne.symm hname]

/-- An accepted write is entered, a refused one does nothing. -/
theorem Journaled.put (hnames : (m.controls.map (·.name)).Nodup) (w : SlotWrite) :
    (m.put w).Journaled (uses ++ [.set w]) := by
  have hregistered : Mixer.registered (uses ++ [.set w]) = Mixer.registered uses := by
    rw [registered_concat]
    exact List.append_nil _
  have hrefused : ∀ name, Refused (uses ++ [.set w]) name ↔ Refused uses name := fun name => by
    rw [refused_concat, or_iff_left fun hlast => (nomatch hlast.1)]
  by_cases haccepts : m.Accepts w
  · obtain ⟨c, hc, -⟩ := accepts_iff.1 haccepts
    have hcontrols := controls_put hnames hc haccepts
    have hjournal : (m.put w).journal = m.journal ++ [⟨c.name, w.slot, w.value⟩] := by
      rw [put_of_accepts hc haccepts]
    refine ⟨fun d hd => ?_, fun e he => ?_, ?_, fun d hd => ?_⟩
    · rw [hcontrols] at hd
      obtain ⟨d, hold, rfl⟩ := List.mem_map.1 hd
      rw [hjournal, List.foldl_concat, Control.blank_enter, h.replays d hold]
    · have hkept : (m.put w).controls.map (·.name) = m.controls.map (·.name) := by
        rw [hcontrols, List.map_map]
        exact List.map_congr_left fun d _ => d.name_enter _
      rw [hjournal] at he
      rw [hkept]
      rcases List.mem_append.1 he with hold | hmem
      · exact h.named e hold
      · rw [List.mem_singleton.1 hmem]
        exact List.mem_map_of_mem (List.mem_of_getElem? hc)
    · rw [hcontrols, List.map_map, hregistered, ← h.registered]
      exact List.map_congr_left fun d _ => d.asNew_enter _
    · rw [hcontrols] at hd
      obtain ⟨d, hold, rfl⟩ := List.mem_map.1 hd
      rw [Control.refusesWrites_enter, Control.name_enter, hrefused]
      exact h.refuses d hold
  · rw [put_of_not_accepts haccepts]
    refine ⟨h.replays, h.named, h.registered.trans hregistered.symm, fun d hd => ?_⟩
    rw [hrefused]
    exact h.refuses d hd

/-- One more use keeps it, unless it registers a name again. -/
theorem Journaled.use (hnames : ((Mixer.registered (uses ++ [u])).map (·.name)).Nodup) :
    (m.use u).Journaled (uses ++ [u]) := by
  rw [registered_concat, List.map_append, List.nodup_append] at hnames
  obtain ⟨hold, -, hapart⟩ := hnames
  rw [← h.names] at hold
  cases m.step u with
  | registers c hu hnew huse =>
    rw [huse]
    refine h.register hnew (fun hmem => hapart _ hmem c.name ?_ rfl) hu
    rw [hu]
    exact List.mem_singleton_self _
  | refuses name hu => subst hu; exact h.refuseWrites hold name
  | writes w hu => subst hu; exact h.put hold w

end

end

/-- A mixer that no name was registered with twice. -/
theorem journaled_used {uses : List Use} (hnames : ((registered uses).map (·.name)).Nodup) :
    (used uses).Journaled uses := by
  -- the last use comes first: what is refused depends on what was registered before
  induction uses using List.reverseRecOn with
  | nil =>
    exact ⟨fun c hc => (nomatch hc), fun e he => (nomatch he), rfl, fun c hc => (nomatch hc)⟩
  | append_singleton uses u ih =>
    have hold := hnames
    rw [registered_concat, List.map_append, List.nodup_append] at hold
    rw [used_concat]
    exact (ih hold.1).use hnames

/-- What the journal of a mixer, and its answers to writes, tell of the uses it was put to. -/
structure JournalLaw (m : Mixer) (uses : List Use) : Prop where
  /-- The controls are those that were registered, in that order. -/
  controls : m.controls.map Control.asNew = registered uses
  /-- A write is accepted iff its control was registered, with that slot and for that value, and
  its writes have not been refused since. -/
  accepts_iff (id : ControlId) (slot : Nat) (value : Int) :
    (m.set id slot value).1 = .ok () ↔ ∃ c, (registered uses)[id]? = some c ∧
      slot < c.values.length ∧ 0 ≤ value ∧ value ≤ c.max ∧ ¬Refused uses c.name
  accepted {id : ControlId} {slot : Nat} {value : Int} (h : (m.set id slot value).1 = .ok ()) :
    ∃ c, (registered uses)[id]? = some c ∧
      (m.set id slot value).2.journal = m.journal ++ [⟨c.name, slot, value⟩]
  refused {id : ControlId} {slot : Nat} {value : Int} (h : (m.set id slot value).1 ≠ .ok ()) :
    (m.set id slot value).2 = m
  /-- Entering the journal into controls whose slots are zero gives the controls. -/
  replay_eq : replay m.layout m.journal = m.controls

section

variable {m : Mixer} {uses : List Use} (h : m.Journaled uses)

include h

theorem Journaled.getElem?_registered (id : ControlId) :
    (Mixer.registered uses)[id]? = (m.controls[id]?).map Control.asNew := by
  rw [← h.registered, List.getElem?_map]

theorem Journaled.accepts_iff_registered (w : SlotWrite) :
    m.Accepts w ↔ ∃ c, (Mixer.registered uses)[w.id]? = some c ∧ w.slot < c.values.length ∧
      0 ≤ w.value ∧ w.value ≤ c.max ∧ ¬Refused uses c.name := by
  rw [accepts_iff, h.getElem?_registered]
  cases hc : m.controls[w.id]? with
  | none => simp
  | some c =>
    have hlength : c.asNew.values.length = c.values.length := List.length_replicate
    have hrefuses : c.refusesWrites = false ↔ ¬Refused uses c.asNew.name := by
      rw [← Bool.not_eq_true, h.refuses c (List.mem_of_getElem? hc)]
      rfl
    simp only [Option.map_some, Option.some.injEq, exists_eq_left', hlength, hrefuses]
    exact and_congr_right fun _ => ⟨fun ⟨hfree, hlow, hhigh⟩ => ⟨hlow, hhigh, hfree⟩,
      fun ⟨hlow, hhigh, hfree⟩ => ⟨hfree, hlow, hhigh⟩⟩

theorem Journaled.replay_layout : replay m.layout m.journal = m.controls := by
  rw [replay_eq_map, layout, List.map_map]
  exact (List.map_congr_left fun c hc => h.replays c hc).trans (List.map_id _)

end

/-- **The journal replays to the mixer.** Whatever is registered with a mixer, refused and written,
in whatever order: as long as no name is registered twice, entering the journal into the controls,
all slots at zero, gives every slot what it holds. A write is accepted by what was registered, and
not refused since, and by nothing else; a refused one changes nothing. -/
theorem journal_replays {uses : List Use} (hnames : ((registered uses).map (·.name)).Nodup) :
    JournalLaw (used uses) uses := by
  have h := journaled_used hnames
  refine ⟨h.registered, fun id slot value => h.accepts_iff_registered ⟨id, slot, value⟩, ?_, ?_,
    h.replay_layout⟩
  · intro id slot value hok
    have haccepts : (used uses).Accepts ⟨id, slot, value⟩ := hok
    obtain ⟨c, hc, -⟩ := accepts_iff.1 haccepts
    refine ⟨c.asNew, by rw [h.getElem?_registered, hc]; rfl, ?_⟩
    exact congrArg Mixer.journal (put_of_accepts hc haccepts)
  · intro id slot value hrefused
    exact put_of_not_accepts (w := ⟨id, slot, value⟩) hrefused

/-- A choice is written in and out of its range, a switch once before it refuses writes and once
after that, and a level that is registered last of all. -/
theorem journal_replays_registered_later :
    let uses : List Use := [.addSwitch "Switch" 2, .addChoice "Mux" ["HP", "DAC"],
      .set ⟨0, 1, 1⟩, .set ⟨1, 0, 2⟩, .set ⟨1, 0, 1⟩, .refuse "Switch", .set ⟨0, 0, 1⟩,
      .addLevel "Volume" 1 63, .refuse "Level", .set ⟨2, 0, 63⟩]
    ((registered uses).map (·.name)).Nodup ∧ JournalLaw (used uses) uses ∧
      (used uses).journal = [⟨"Switch", 1, 1⟩, ⟨"Mux", 0, 1⟩, ⟨"Volume", 0, 63⟩] ∧
      (used uses).controls.map (·.values) = [[0, 1], [1], [63]] := by
  intro uses
  have hnames : ((registered uses).map (·.name)).Nodup := by decide
  exact ⟨hnames, journal_replays hnames, by decide, by decide⟩

end Mixer

end HandsetAudio
