import HandsetAudio.Proofs.Mixer.Surroundings

/-!
# A row is looked up once

Between two resets a reconciler may be called any number of times while others change the mixer.

> `looked_up_once`: from a reset to the next, a row is looked up by the first call that needs it
> and by no other. What it resolves to then is used for all its writes. If it resolves to nothing,
> it is reported once, never applied and never written, whatever is added to the mixer later. A row
> that is set once is written by at most one call, and never off.

`RowInv` is what one more call preserves of this, for one row. Each way of treating the row is a
lemma of its own (`quiet`, `known`, `resolved`, `missed`).
-/

namespace HandsetAudio

open Reconciler (Call)

namespace Rig

/-! ## The calls of a run, for one row -/

namespace Moment

/-- The row at `place`. -/
def row? (mo : Moment) (place : Nat) : Option Tracked := mo.rig.reconciler.rows[place]?

/-- Whether the call looks the row at `place` up. -/
def looksUp (mo : Moment) (place : Nat) : Bool := (mo.row? place).any (·.looksUp mo.call)

/-- The state that the call writes the row at `place` to, if it does. -/
def turn? (mo : Moment) (place : Nat) : Option Bool :=
  (mo.row? place).bind (·.turn? mo.rig.mixer mo.call)

/-- The writes that the call asks for on behalf of the row at `place`. -/
def asked (mo : Moment) (place : Nat) : List SlotWrite :=
  ((mo.row? place).map (·.asked mo.rig.mixer mo.call)).getD []

/-- The report of the call on the row at `place`, if it finds the row inert. -/
def reported (mo : Moment) (place : Nat) : List Skip :=
  ((mo.row? place).map (·.reported mo.rig.mixer mo.call)).getD []

/-- What can be seen of the call. -/
def outcome (mo : Moment) : Outcome := mo.rig.outcome mo.call

/-- The row at `place` after the call, if the rig has the mixer `m`. -/
def rowOn? (mo : Moment) (m : Mixer) (place : Nat) : Option Tracked :=
  (({ mo.rig with mixer := m } : Rig).serve mo.call).2.reconciler.rows[place]?

theorem rowOn?_eq (mo : Moment) (m : Mixer) (place : Nat) :
    mo.rowOn? m place = (mo.row? place).map (·.answer m mo.call) := by
  simp [rowOn?, row?, serve_eq]

/-- A call looks a row up iff another mixer could have made something else of the row. -/
theorem looksUp_iff {mo : Moment} {place : Nat} :
    mo.looksUp place = true ↔ ∃ m m', mo.rowOn? m place ≠ mo.rowOn? m' place := by
  simp only [rowOn?_eq, looksUp]
  cases mo.row? place with
  | none => simp
  | some t => simpa using t.looksUp_iff mo.call

end Moment

/-- What the calls of `history` did for the row of `rule` at `place`, which is `t` by now. -/
structure RowInv (place : Nat) (rule : ControlRule) (history : List Moment) (t : Tracked) :
    Prop where
  rule_eq : t.rule = rule
  /-- It was looked up by the first call that needed it. -/
  lookups : history.filter (·.looksUp place) = (history.find? (·.call.needs rule)).toList
  /-- It stands for what that call found. -/
  resolution : t.resolution =
    ((history.find? (·.call.needs rule)).map fun look =>
      (rule.lookUp look.rig.mixer).1).getD .pending
  /-- That call made the only report. -/
  reports : history.flatMap (·.reported place) =
    ((history.find? (·.call.needs rule)).map fun look =>
      (rule.lookUp look.rig.mixer).2).getD []
  /-- Only a row that stands for something is applied. -/
  applied : t.applied = true → ∃ id value, t.resolution = .ready id value
  /-- All its writes went through what it stands for. -/
  asked : ∀ mo ∈ history, ∀ on, mo.turn? place = some on → ∃ id value,
    t.resolution = .ready id value ∧
      mo.asked place = mo.rig.mixer.slotWrites id (if on then value else 0)
  /-- A row that is set once was written on by one call if it is applied, and by none otherwise. -/
  once : rule.once = true → history.filterMap (·.turn? place) = if t.applied then [true] else []

/-- A reset finds a row that no call did anything for. -/
theorem rowInv_nil (place : Nat) (t : Tracked) : RowInv place t.rule [] (t.found .reset) where
  rule_eq := rfl
  lookups := rfl
  resolution := rfl
  reports := rfl
  applied h := by cases h
  asked _ hmo := by cases hmo
  once _ := rfl

namespace RowInv

variable {place : Nat} {rule : ControlRule} {history : List Moment} {t : Tracked}

/-- A row is looked up as soon as it is needed. -/
theorem find?_eq_none (h : RowInv place rule history t) :
    history.find? (·.call.needs rule) = none ↔ t.resolution = .pending := by
  rw [h.resolution]
  cases history.find? (·.call.needs rule) with
  | none => simp
  | some look =>
    simp only [reduceCtorEq, Option.map_some, Option.getD_some, false_iff]
    unfold ControlRule.lookUp
    split <;> simp

/-- A row that stands for nothing was not written, and is not applied. -/
theorem unwritten (h : RowInv place rule history t)
    (hnot : ∀ id value, t.resolution ≠ .ready id value) :
    t.applied = false ∧ ∀ mo ∈ history, mo.turn? place = none := by
  refine ⟨Bool.eq_false_iff.2 fun happlied => ?_,
    fun mo hmo => Option.eq_none_iff_forall_ne_some.2 fun on hturn => ?_⟩
  · obtain ⟨id, value, hready⟩ := h.applied happlied
    exact hnot id value hready
  · obtain ⟨id, value, hready, -⟩ := h.asked mo hmo on hturn
    exact hnot id value hready

/-- A call that does not look the row up, because it does not need it or because it was looked up
before. -/
theorem append (h : RowInv place rule history t) {mo : Moment} (hlooksUp : mo.looksUp place = false)
    (hreported : mo.reported place = [])
    (hneeds : t.resolution = .pending → mo.call.needs rule = false) :
    (history ++ [mo]).find? (·.call.needs rule) = history.find? (·.call.needs rule) ∧
      (history ++ [mo]).filter (·.looksUp place) = history.filter (·.looksUp place) ∧
      (history ++ [mo]).flatMap (·.reported place) = history.flatMap (·.reported place) := by
  refine ⟨?_, ?_, ?_⟩
  · rw [List.find?_append]
    cases hfind : history.find? (·.call.needs rule) with
    -- not needed before, so it is pending and not needed now either
    | none => simp [hneeds (h.find?_eq_none.1 hfind)]
    | some look => rfl
  · rw [List.filter_append]
    simp [hlooksUp]
  · rw [List.flatMap_append]
    simp [hreported]

/-- A call that does nothing for the row. -/
theorem quiet (h : RowInv place rule history t) {mo : Moment} (hlooksUp : mo.looksUp place = false)
    (hturn : mo.turn? place = none) (hreported : mo.reported place = [])
    (hneeds : t.resolution = .pending → mo.call.needs rule = false) :
    RowInv place rule (history ++ [mo]) t := by
  obtain ⟨hfind, hlookups, hreports⟩ := h.append hlooksUp hreported hneeds
  refine ⟨h.rule_eq, ?_, ?_, ?_, h.applied, ?_, ?_⟩
  · rw [hfind, hlookups, h.lookups]
  · rw [hfind, h.resolution]
  · rw [hfind, hreports, h.reports]
  · intro mo' hmo' on hturn'
    rcases List.mem_append.1 hmo' with hmo' | hmo'
    · exact h.asked mo' hmo' on hturn'
    · rw [List.mem_singleton.1 hmo', hturn] at hturn'
      cases hturn'
  · intro honce
    rw [List.filterMap_append, h.once honce]
    simp [hturn]

/-- A call that writes the row through what it is known to stand for. -/
theorem known (h : RowInv place rule history t) {mo : Moment} {id : ControlId} {value : Int}
    {on : Bool} (hready : t.resolution = .ready id value) (hlooksUp : mo.looksUp place = false)
    (hturn : mo.turn? place = some on)
    (hasked : mo.asked place = mo.rig.mixer.slotWrites id (if on then value else 0))
    (hreported : mo.reported place = [])
    (honce : rule.once = true → t.applied = false ∧ on = true) :
    RowInv place rule (history ++ [mo]) { t with applied := on } := by
  obtain ⟨hfind, hlookups, hreports⟩ := h.append hlooksUp hreported fun hpending => by
    simp [hready] at hpending
  refine ⟨h.rule_eq, ?_, ?_, ?_, fun _ => ⟨id, value, hready⟩, ?_, ?_⟩
  · rw [hfind, hlookups, h.lookups]
  · rw [hfind]
    exact h.resolution
  · rw [hfind, hreports, h.reports]
  · intro mo' hmo' on' hon'
    rcases List.mem_append.1 hmo' with hmo' | hmo'
    · exact h.asked mo' hmo' on' hon'
    · obtain rfl := List.mem_singleton.1 hmo'
      obtain rfl := Option.some.inj (hturn.symm.trans hon')
      exact ⟨id, value, hready, hasked⟩
  · intro hrule
    obtain ⟨hoff, rfl⟩ := honce hrule
    rw [List.filterMap_append, h.once hrule]
    simp [hoff, hturn]

/-- The first call that needs the row. -/
theorem look (h : RowInv place rule history t) {mo : Moment} (hpending : t.resolution = .pending)
    (hneeds : mo.call.needs rule = true) (hlooksUp : mo.looksUp place = true) :
    (history ++ [mo]).find? (·.call.needs rule) = some mo ∧
      (history ++ [mo]).filter (·.looksUp place) = [mo] ∧
      (history ++ [mo]).flatMap (·.reported place) = mo.reported place ∧
      t.applied = false ∧ ∀ mo' ∈ history, mo'.turn? place = none := by
  have hnone := h.find?_eq_none.2 hpending
  have hlookups := h.lookups
  have hreports := h.reports
  rw [hnone] at hlookups hreports
  refine ⟨?_, ?_, ?_, h.unwritten fun id value => by simp [hpending]⟩
  · rw [List.find?_append, hnone]
    simp [hneeds]
  · rw [List.filter_append, hlookups]
    simp [hlooksUp]
  · rw [List.flatMap_append, hreports]
    simp

/-- The first call that needs the row finds what it stands for, and writes it. -/
theorem resolved (h : RowInv place rule history t) {mo : Moment} {id : ControlId} {value : Int}
    {on : Bool} (hpending : t.resolution = .pending) (hneeds : mo.call.needs rule = true)
    (hresolve : rule.resolve mo.rig.mixer = .ok (id, value)) (hlooksUp : mo.looksUp place = true)
    (hturn : mo.turn? place = some on)
    (hasked : mo.asked place = mo.rig.mixer.slotWrites id (if on then value else 0))
    (hreported : mo.reported place = []) (honce : rule.once = true → on = true) :
    RowInv place rule (history ++ [mo])
      { t with applied := on, resolution := .ready id value } := by
  -- nothing was written for the row before, so this call decides what it stands for
  obtain ⟨hfind, hlookups, hreports, -, hturns⟩ := h.look hpending hneeds hlooksUp
  refine ⟨h.rule_eq, ?_, ?_, ?_, fun _ => ⟨id, value, rfl⟩, ?_, ?_⟩
  · rw [hfind, hlookups]
    rfl
  · rw [hfind]
    simp [ControlRule.lookUp, hresolve]
  · rw [hfind, hreports, hreported]
    simp [ControlRule.lookUp, hresolve]
  · intro mo' hmo' on' hon'
    rcases List.mem_append.1 hmo' with hmo' | hmo'
    · cases (hturns mo' hmo').symm.trans hon'
    · obtain rfl := List.mem_singleton.1 hmo'
      obtain rfl := Option.some.inj (hturn.symm.trans hon')
      exact ⟨id, value, rfl, hasked⟩
  · intro hrule
    obtain rfl := honce hrule
    rw [List.filterMap_append, List.filterMap_eq_nil_iff.2 hturns]
    simp [hturn]

/-- The first call that needs the row finds nothing, and reports it. -/
theorem missed (h : RowInv place rule history t) {mo : Moment} {reason : Mismatch}
    (hpending : t.resolution = .pending) (hneeds : mo.call.needs rule = true)
    (hresolve : rule.resolve mo.rig.mixer = .error reason) (hlooksUp : mo.looksUp place = true)
    (hturn : mo.turn? place = none) (hreported : mo.reported place = [⟨rule.name, reason⟩]) :
    RowInv place rule (history ++ [mo]) { t with resolution := .inert } := by
  obtain ⟨hfind, hlookups, hreports, hoff, hturns⟩ := h.look hpending hneeds hlooksUp
  have hnone : ∀ mo' ∈ history ++ [mo], mo'.turn? place = none := by
    simpa [or_imp, forall_and] using ⟨hturns, hturn⟩
  refine ⟨h.rule_eq, ?_, ?_, ?_, fun happlied => ?_, fun mo' hmo' on hon => ?_, fun _ => ?_⟩
  · rw [hfind, hlookups]
    rfl
  · rw [hfind]
    simp [ControlRule.lookUp, hresolve]
  · rw [hfind, hreports, hreported]
    simp [ControlRule.lookUp, hresolve]
  · cases hoff.symm.trans happlied
  · cases (hnone mo' hmo').symm.trans hon
  · rw [List.filterMap_eq_nil_iff.2 hnone, hoff]
    rfl

/-- **One more call.** -/
theorem serve {s : Rig} {call : Call} (h : RowInv place rule history (t.found call))
    (ht : s.reconciler.rows[place]? = some t) :
    RowInv place rule (history ++ [⟨s, call⟩]) (t.answer s.mixer call) := by
  obtain rfl : t.rule = rule := (t.rule_found call).symm.trans h.rule_eq
  have hrow : Moment.row? ⟨s, call⟩ place = some t := ht
  have hlooks : Moment.looksUp ⟨s, call⟩ place = t.looksUp call := by simp [Moment.looksUp, hrow]
  have hturns : Moment.turn? ⟨s, call⟩ place = t.turn? s.mixer call := by simp [Moment.turn?, hrow]
  have hasks : Moment.asked ⟨s, call⟩ place = t.asked s.mixer call := by simp [Moment.asked, hrow]
  have hreports : Moment.reported ⟨s, call⟩ place = t.reported s.mixer call := by
    simp [Moment.reported, hrow]
  -- a pending row is not applied, so the call has to write it iff it needs it
  have hneeds : (t.found call).resolution = .pending → call.needs t.rule = t.due call :=
    fun hpending =>
      (Tracked.due_of_pending (h.unwritten fun id value => by simp [hpending]).1).symm
  cases t.treatment s.mixer call with
  | idle hdue hanswer hlooksUp hturn hasked hreported =>
    rw [hanswer]
    exact h.quiet (hlooks.trans hlooksUp) (hturns.trans hturn) (hreports.trans hreported)
      fun hpending => (hneeds hpending).trans hdue
  | skipped hfound hanswer hlooksUp hturn hasked hreported =>
    rw [hanswer]
    exact h.quiet (hlooks.trans hlooksUp) (hturns.trans hturn) (hreports.trans hreported)
      fun hpending => (nomatch hfound.symm.trans hpending)
  | known id value hdue hfound hanswer hlooksUp hturn hasked hreported =>
    rw [hanswer]
    exact h.known hfound (hlooks.trans hlooksUp) (hturns.trans hturn) (hasks.trans hasked)
      (hreports.trans hreported) fun honce => Tracked.wants_of_due honce hdue
  | resolved id value hdue hfound hresolve hanswer hlooksUp hturn hasked hreported =>
    rw [hanswer]
    exact h.resolved hfound ((hneeds hfound).trans hdue) hresolve (hlooks.trans hlooksUp)
      (hturns.trans hturn) (hasks.trans hasked) (hreports.trans hreported)
      fun honce => (Tracked.wants_of_due honce hdue).2
  | missed reason hdue hfound hresolve hanswer hlooksUp hturn hasked hreported =>
    rw [hanswer]
    exact h.missed hfound ((hneeds hfound).trans hdue) hresolve (hlooks.trans hlooksUp)
      (hturns.trans hturn) (hreports.trans hreported)

end RowInv

/-! ## From a reset to the next -/

/-- **From a reset on**, until the next. -/
theorem exists_rowInv {s : Rig} {place : Nat} {t : Tracked}
    (ht : s.reconciler.rows[place]? = some t) {events : List Event}
    (hevents : .call .reset ∉ events) :
    ∃ t', (s.play (.call .reset :: events)).reconciler.rows[place]? = some t' ∧
      RowInv place t.rule (s.moments (.call .reset :: events)) t' := by
  induction events using List.reverseRecOn with
  | nil =>
    exact ⟨_, getElem?_rows_serve ht .reset, (rowInv_nil place t).serve ht⟩
  | append_singleton events e ih =>
    obtain ⟨hbefore, hlast⟩ := not_or.1 (mt List.mem_append.2 hevents)
    obtain ⟨t', ht', hinv⟩ := ih hbefore
    -- only a call reads or changes the row, and a pass finds it as it was left
    rw [← List.cons_append, play_concat, moments_concat]
    cases e with
    | call call =>
      cases call with
      | reset => exact absurd (List.mem_singleton_self _) hlast
      | converge facts => exact ⟨_, getElem?_rows_serve ht' _, hinv.serve ht'⟩
    | register => exact ⟨t', ht', by simpa [moment?] using hinv⟩
    | refuse => exact ⟨t', ht', by simpa [moment?] using hinv⟩
    | store => exact ⟨t', ht', by simpa [moment?] using hinv⟩

/-- What can be seen in a run from a reset on of the row of `rule` at `place`, which is `t` by
then. -/
structure LookedUpOnce (place : Nat) (rule : ControlRule) (history : List Moment) (t : Tracked) :
    Prop where
  rule_eq : t.rule = rule
  /-- The first call that needs the row looks it up, and no other call does. -/
  lookups : history.filter (·.looksUp place) = (history.find? (·.call.needs rule)).toList
  /-- If no call needs it, nothing becomes of it. -/
  unneeded : history.find? (·.call.needs rule) = none →
    t.resolution = .pending ∧ ∀ mo ∈ history, mo.turn? place = none
  /-- If the look-up succeeds, the row stands for what it found, and every write for the row goes
  to all slots of that control, with that value or zero. -/
  resolved : ∀ look id value, history.find? (·.call.needs rule) = some look →
    rule.resolve look.rig.mixer = .ok (id, value) →
    t.resolution = .ready id value ∧ ∀ mo ∈ history, ∀ on, mo.turn? place = some on →
      mo.asked place = mo.rig.mixer.slotWrites id (if on then value else 0)
  /-- If the look-up fails, the row is inert and not applied, no call writes it, and all calls
  together make one report on it. -/
  missed : ∀ look reason, history.find? (·.call.needs rule) = some look →
    rule.resolve look.rig.mixer = .error reason →
    t.resolution = .inert ∧ t.applied = false ∧ (∀ mo ∈ history, mo.turn? place = none) ∧
      (history.flatMap (·.outcome.skips)).filter (·.name = rule.name) = [⟨rule.name, reason⟩]
  /-- If it is set once, one call at most writes it, and never off. -/
  once : rule.once = true →
    history.filterMap (·.turn? place) = [] ∨ history.filterMap (·.turn? place) = [true]
  /-- A call that does not write the row enters nothing of its name in the journal. -/
  journal : ∀ mo ∈ history, mo.turn? place = none → ∀ e ∈ mo.outcome.written, e.name ≠ rule.name

section

variable {table : List ControlRule} (hnames : (table.map (·.name)).Nodup) {place : Nat}
  {rule : ControlRule} (hrule : table[place]? = some rule) {mo : Moment}
  (hrules : mo.rig.rules = table)

include hnames hrule hrules

/-- The report on a row is the only one of its name. -/
theorem Moment.filter_skips :
    mo.outcome.skips.filter (·.name = rule.name) = mo.reported place := by
  subst hrules
  obtain ⟨t, ht, rfl⟩ := exists_row_of_rules hrule
  have hrow : mo.row? place = some t := ht
  rw [Moment.reported, hrow]
  exact Rig.filter_skips hnames (List.mem_of_getElem? ht) mo.call

/-- A call that does not write a row adds nothing of its name to the journal. -/
theorem Moment.name_ne_of_written (hnamed : mo.call = .reset ∨ mo.rig.Named)
    (hturn : mo.turn? place = none) {e : MixerWrite} (he : e ∈ mo.outcome.written) :
    e.name ≠ rule.name := by
  subst hrules
  obtain ⟨t, ht, rfl⟩ := exists_row_of_rules hrule
  have hrow : mo.row? place = some t := ht
  rw [Moment.turn?, hrow] at hturn
  exact Rig.name_ne_of_written hnames (List.mem_of_getElem? ht) hnamed hturn he

end

/-- What the calls of a run did for a row, as it can be seen. -/
theorem RowInv.lookedUpOnce {table : List ControlRule} (hnames : (table.map (·.name)).Nodup)
    {place : Nat} {rule : ControlRule} (hrule : table[place]? = some rule) {history : List Moment}
    (hhistory : ∀ mo ∈ history, mo.rig.rules = table ∧ (mo.call = .reset ∨ mo.rig.Named))
    {t : Tracked} (h : RowInv place rule history t) : LookedUpOnce place rule history t where
  rule_eq := h.rule_eq
  lookups := h.lookups
  unneeded hnone := by
    have hpending := h.find?_eq_none.1 hnone
    exact ⟨hpending, (h.unwritten fun id value => by simp [hpending]).2⟩
  resolved look id value hlook hresolve := by
    have hready : t.resolution = .ready id value := by
      simp [h.resolution, hlook, ControlRule.lookUp, hresolve]
    refine ⟨hready, fun mo hmo on hturn => ?_⟩
    obtain ⟨id', value', hready', hasked⟩ := h.asked mo hmo on hturn
    obtain ⟨rfl, rfl⟩ := Resolution.ready.inj (hready.symm.trans hready')
    exact hasked
  missed look reason hlook hresolve := by
    have hinert : t.resolution = .inert := by
      simp [h.resolution, hlook, ControlRule.lookUp, hresolve]
    obtain ⟨hoff, hturns⟩ := h.unwritten fun id value => by simp [hinert]
    have hskips : ∀ mo ∈ history,
        mo.outcome.skips.filter (·.name = rule.name) = mo.reported place :=
      fun mo hmo => Moment.filter_skips hnames hrule (hhistory mo hmo).1
    refine ⟨hinert, hoff, hturns, ?_⟩
    rw [List.filter_flatMap, List.flatMap_congr hskips, h.reports, hlook]
    simp [ControlRule.lookUp, hresolve]
  once honce := by
    rw [h.once honce]
    split
    · exact .inr rfl
    · exact .inl rfl
  journal mo hmo hturn e he := by
    obtain ⟨hrules, hnamed⟩ := hhistory mo hmo
    exact Moment.name_ne_of_written hnames hrule hrules hnamed hturn he

/-- The row of `rule` at `place`, when a reset and then `events` come to the rig. -/
def LooksUpOnce (s : Rig) (place : Nat) (rule : ControlRule) (events : List Event) : Prop :=
  ∃ t, (s.play (.call .reset :: events)).reconciler.rows[place]? = some t ∧
    LookedUpOnce place rule (s.moments (.call .reset :: events)) t

theorem looksUpOnce {s : Rig} (hnames : (s.rules.map (·.name)).Nodup) {place : Nat}
    {rule : ControlRule} (hrule : s.rules[place]? = some rule) {events : List Event}
    (hevents : .call .reset ∉ events) : s.LooksUpOnce place rule events := by
  obtain ⟨t, ht, rfl⟩ := exists_row_of_rules hrule
  obtain ⟨t', ht', hinv⟩ := exists_rowInv ht hevents
  refine ⟨t', ht', hinv.lookedUpOnce hnames hrule fun mo hmo => ?_⟩
  have hrules := forall_moments (P := fun s' => s'.rules = s.rules)
    (fun s' e hs' => (rules_step s' e).trans hs') rfl (.call .reset :: events) mo hmo
  exact ⟨hrules, named_moments s events mo hmo⟩

/-- **A row is looked up once.** Take any reconciler on any mixer, whatever it remembers, whose
table names no control twice. Reset it, then call it any number of times while controls are added,
made to refuse writes and written by others. Then every row of the table is looked up by the first
call that needs it and by no other, what was found is used for all its writes, and if nothing was
found the row stays inert, unwritten and reported once. A row that is set once is written by one
call at most, and never off. All that holds again from the next reset on, so that an inert row is
looked up by the first call that needs it then.

Looking up is what makes a row depend on the mixer, and what the calls did for the rows is all that
they wrote, counted and reported. -/
theorem looked_up_once {s : Rig} (hnames : (s.rules.map (·.name)).Nodup) {place : Nat}
    {rule : ControlRule} (hrule : s.rules[place]? = some rule) {events : List Event}
    (hevents : .call .reset ∉ events) :
    s.LooksUpOnce place rule events ∧
      (∀ events', .call .reset ∉ events' →
        (s.play (.call .reset :: events)).LooksUpOnce place rule events') ∧
      ∀ mo ∈ s.moments (.call .reset :: events),
        (mo.looksUp place = true ↔ ∃ m m', mo.rowOn? m place ≠ mo.rowOn? m' place) ∧
          mo.rig.Accounts mo.call (mo.rig.serve mo.call).1 := by
  refine ⟨looksUpOnce hnames hrule hevents, fun events' hevents' => ?_, fun mo _ =>
    ⟨Moment.looksUp_iff, mo.rig.accounts mo.call⟩⟩
  rw [← rules_play s (.call .reset :: events)] at hnames hrule
  exact looksUpOnce hnames hrule hevents'

/-- A volume that is registered after the first call that needs it: it stays inert until the next
reset, and is written by the first call that needs it then. -/
theorem looked_up_once_registered_late :
    let volume := (ControlRule.level "Volume" 40 .all .speaker).setOnce
    let s := Rig.mk (.ofTable .output [.level "Switch" 1 .all .allOutputs, volume])
      (({} : Mixer).addSwitch "Switch" 1)
    let speaker := Event.call (.converge ⟨.normal, .speaker, true⟩)
    let earpiece := Event.call (.converge ⟨.normal, .earpiece, true⟩)
    let events := [speaker, .register "Volume" .level 2 63 [], .refuse "Switch", .store ⟨0, 0, 0⟩,
      earpiece, speaker]
    let s' := s.play (.call .reset :: events)
    let volume? := fun s : Rig => (s.reconciler.rows[1]?).map (·.resolution)
    s.LooksUpOnce 1 volume events ∧ s'.LooksUpOnce 1 volume [earpiece, speaker] ∧
      volume? s' = some .inert ∧ volume? (s'.play [.call .reset, earpiece]) = some .pending ∧
      volume? (s'.play [.call .reset, earpiece, speaker]) = some (.ready 1 40) := by
  intro volume s speaker earpiece events s' volume?
  have hrule : s.rules[1]? = some volume := rfl
  have hevents : .call .reset ∉ events := by decide
  obtain ⟨hfirst, hnext, -⟩ := looked_up_once (by decide) hrule hevents
  exact ⟨hfirst, hnext [earpiece, speaker] (by decide), by decide, by decide, by decide⟩

end Rig

end HandsetAudio
