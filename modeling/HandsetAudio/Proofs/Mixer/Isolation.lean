import HandsetAudio.Proofs.Logs
import HandsetAudio.Proofs.Mixer.Values
import Mathlib.Data.Set.Basic

/-!
# Faults stay with their control

Whatever is wrong with one control (it is missing, of another kind, refuses its writes), the rows
of other names go on as they would without it. Two mixers *agree on* a set of names if they have
the same first control of each of these names, but for what its slots hold. The places of the
controls may differ, and everything about controls of other names.

> `faults_isolated`: on mixers that agree on a set of names, the same calls make the same writes
> to the controls of these names, in the same order, and leave the rows of these names with the
> same flags.

What a call enters in the journal for a row is a function of the shape of the row's control
(`ControlRule.filterMap_logged?_writes`). The rest is a relation between two runs, kept call by
call (`Rig.AgreesOn`).
-/

namespace HandsetAudio

/-! ## The shape of a control decides what is written to it -/

/-- The journal entry of a write to a slot of the control, if the control accepts it. -/
def Control.accepted? (c : Control) (slot : Nat) (value : Int) : Option MixerWrite :=
  if slot < c.values.length ∧ c.refusesWrites = false ∧ 0 ≤ value ∧ value ≤ c.max then
    some ⟨c.name, slot, value⟩
  else none

/-- The journal entries of one value written to every slot of the control. -/
def Control.entries (c : Control) (value : Int) : List MixerWrite :=
  (List.range c.values.length).filterMap (c.accepted? · value)

theorem Control.name_of_mem_entries {c : Control} {value : Int} {e : MixerWrite}
    (h : e ∈ c.entries value) : e.name = c.name := by
  obtain ⟨slot, -, hentry⟩ := List.mem_filterMap.1 h
  unfold accepted? at hentry
  split at hentry
  next => rw [← Option.some.inj hentry]
  next => cases hentry

/-- The value that switches a row on, if the row stands for the control. -/
def ControlRule.valueOn? (rule : ControlRule) (c : Control) : Option Int :=
  match rule.target with
  | .level value => some value
  | .choice choice =>
    if c.kind ≠ .choice then none else (c.choices.findIdx? (· == choice)).map Int.ofNat

/-- The first control of a name, without what its slots hold. -/
def Mixer.shape? (m : Mixer) (name : String) : Option Control := m.layout.find? (·.name == name)

namespace Mixer

theorem shape?_eq_bind (m : Mixer) (name : String) :
    m.shape? name = (m.find? name).bind fun id => m.layout[id]? := by
  rw [shape?, List.find?_eq_bind_findIdx?_getElem?, find?_eq_layout]

theorem name_of_shape? {m : Mixer} {name : String} {c : Control} (h : m.shape? name = some c) :
    c.name = name := by
  have hname := List.find?_some h
  exact eq_of_beq hname

theorem shape?_of_find? {m : Mixer} {name : String} {id : ControlId} (h : m.find? name = some id) :
    ∃ c, m.layout[id]? = some c ∧ m.shape? name = some c := by
  rw [shape?_eq_bind, h]
  rw [find?_eq_layout] at h
  obtain ⟨hlt, -⟩ := List.findIdx?_eq_some_iff_getElem.1 h
  exact ⟨_, List.getElem?_eq_getElem hlt, List.getElem?_eq_getElem hlt⟩

theorem shape?_eq_none {m : Mixer} {name : String} (h : m.find? name = none) :
    m.shape? name = none := by
  rw [shape?_eq_bind, h]
  rfl

theorem logged?_eq_accepted? (m : Mixer) (w : SlotWrite) :
    m.logged? w = (m.layout[w.id]?).bind fun c => c.accepted? w.slot w.value := by
  by_cases h : m.Accepts w
  · obtain ⟨c, hc, haccepts⟩ := accepts_iff.1 h
    have hblank : c.blank.accepted? w.slot w.value = some ⟨c.name, w.slot, w.value⟩ := by
      simpa [Control.accepted?, Control.blank] using haccepts
    rw [logged?_of_accepts hc h, getElem?_layout, hc]
    exact hblank.symm
  · rw [logged?_of_not_accepts h]
    rw [accepts_iff_layout] at h
    cases hc : m.layout[w.id]? with
    | none => rfl
    | some c =>
      have hrefused := fun haccepts => h ⟨c, hc, haccepts⟩
      exact (if_neg hrefused).symm

/-- The entries of writing one value to every slot of a control. -/
theorem filterMap_logged?_slotWrites {m : Mixer} {id : ControlId} {c : Control}
    (h : m.layout[id]? = some c) (value : Int) :
    (m.slotWrites id value).filterMap m.logged? = c.entries value := by
  have hslots : m.slots id = c.values.length := by rw [slots_eq_layout, h]; rfl
  rw [slotWrites, List.filterMap_map, hslots]
  refine List.filterMap_congr fun slot _ => ?_
  show m.logged? ⟨id, slot, value⟩ = _
  rw [logged?_eq_accepted?]
  show (m.layout[id]?).bind _ = _
  rw [h]
  rfl

end Mixer

namespace ControlRule

/-- A row stands for the first control of its name, if that has a value for it. -/
theorem target?_eq_shape (rule : ControlRule) (m : Mixer) :
    rule.target? m = (m.find? rule.name).bind fun id =>
      ((m.shape? rule.name).bind rule.valueOn?).map fun value => (id, value) := by
  unfold target? resolve
  cases hfind : m.find? rule.name with
  | none => rfl
  | some id =>
    obtain ⟨c, hlayout, hshape⟩ := Mixer.shape?_of_find? hfind
    rw [hshape]
    unfold valueOn?
    cases rule.target with
    | level value => rfl
    | choice choice =>
      rw [Mixer.getElem?_layout] at hlayout
      obtain ⟨c', hc', rfl⟩ := Option.map_eq_some_iff.1 hlayout
      simp only [hc', Control.blank, Option.bind_some]
      split
      next => rfl
      next => cases c'.choices.findIdx? (· == choice) <;> rfl

theorem isSome_target? (rule : ControlRule) (m : Mixer) :
    (rule.target? m).isSome = ((m.shape? rule.name).bind rule.valueOn?).isSome := by
  rw [target?_eq_shape]
  cases hfind : m.find? rule.name with
  | none => rw [Mixer.shape?_eq_none hfind]; rfl
  | some id => exact Option.isSome_map

/-- The entries of writing a row on or off, from the shape of its control. -/
def entries (rule : ControlRule) (c : Option Control) (on : Bool) : List MixerWrite :=
  match c, c.bind rule.valueOn? with
  | some c, some value => c.entries (if on then value else 0)
  | _, _ => []

theorem filterMap_logged?_writes (rule : ControlRule) (m : Mixer) (on : Bool) :
    (rule.writes m on).filterMap m.logged? = rule.entries (m.shape? rule.name) on := by
  unfold writes entries Mixer.targetWrites
  rw [target?_eq_shape]
  cases hfind : m.find? rule.name with
  | none => rw [Mixer.shape?_eq_none hfind]; rfl
  | some id =>
    obtain ⟨c, hlayout, hshape⟩ := Mixer.shape?_of_find? hfind
    simp only [hshape, Option.bind_some]
    cases rule.valueOn? c with
    | none => rfl
    | some value => exact Mixer.filterMap_logged?_slotWrites hlayout _

/-- They are all about the row's control. -/
theorem name_of_mem_entries {rule : ControlRule} {m : Mixer} {on : Bool} {e : MixerWrite}
    (h : e ∈ rule.entries (m.shape? rule.name) on) : e.name = rule.name := by
  cases hshape : m.shape? rule.name with
  | none => rw [hshape] at h; cases h
  | some c =>
    rw [hshape] at h
    unfold entries at h
    split at h
    next c' value hc hvalue =>
      obtain rfl := Option.some.inj hc
      exact (Control.name_of_mem_entries h).trans (Mixer.name_of_shape? hshape)
    next => cases h

end ControlRule

/-! ## The changes of a call, row by row -/

/-- The change of the row at `place`, if a call brings it to the state `on`. -/
def Tracked.changeAt? (m : Mixer) (call : Reconciler.Call) (on : Bool) (place : Nat) (t : Tracked) :
    Option RowChange :=
  if t.change? m call = some on then some { place, rule := t.rule, on } else none

/-- The change of a row of one of the names. -/
theorem Tracked.filter_changeAt? (S : Set String) [DecidablePred (· ∈ S)] (m : Mixer)
    (call : Reconciler.Call) (on : Bool) (place : Nat) (t : Tracked) :
    (t.changeAt? m call on place).filter (·.rule.name ∈ S) =
      if t.rule.name ∈ S then t.changeAt? m call on place else none := by
  unfold changeAt?
  by_cases hname : t.rule.name ∈ S <;> split <;> simp [Option.filter, hname]

namespace Rig

open Reconciler (Call)

/-- The rows that a call brings to the state `on`, in table order. -/
def changesTo (s : Rig) (call : Call) (on : Bool) : List RowChange :=
  s.reconciler.rows.zipIdx.filterMap fun row => row.1.changeAt? s.mixer call on row.2

theorem changes_eq (s : Rig) (call : Call) :
    s.changes call = (s.changesTo call false).reverse ++ s.changesTo call true := by
  have hpick : ∀ (p : Tracked → Bool) (on : Bool),
      (∀ t ∈ s.reconciler.rows, p t = decide (t.change? s.mixer call = some on)) →
      (s.reconciler.rows.zipIdx.filter fun row => p row.1).map
        (fun row => { place := row.2, rule := row.1.rule, on }) = s.changesTo call on := by
    intro p on hp
    rw [← List.filterMap_eq_map, List.filterMap_filter]
    refine List.filterMap_congr fun row hrow => ?_
    simp [hp row.1 (List.fst_mem_of_mem_zipIdx hrow), Tracked.changeAt?]
  cases call with
  | reset =>
    have hoff := hpick (fun t => (t.rule.target? s.mixer).isSome && !t.rule.once) false
      fun t _ => by simp [Tracked.change?]
    have hon : s.changesTo .reset true = [] :=
      List.filterMap_eq_nil_iff.2 fun row _ => by simp [Tracked.changeAt?, Tracked.change?]
    rw [← hoff, hon, List.append_nil, changes, resets, List.map_reverse]
  | converge facts =>
    have hoff := hpick
      (fun t => (t.rule.target? s.mixer).isSome && t.applied && !t.rule.once &&
        !t.rule.desired facts) false fun t _ => by simp [Tracked.change?, Bool.and_assoc]
    have hon := hpick
      (fun t => (t.rule.target? s.mixer).isSome && !t.applied && t.rule.desired facts) true
      fun t _ => by cases ha : t.applied <;> simp [Tracked.change?, ha]
    rw [← hoff, ← hon, changes, releases, assertions, List.map_reverse]

end Rig

/-! ## Rows with the same flags -/

namespace Tracked

/-- Two rows of one rule show the same: whether the row is applied, not looked up yet, or inert.
The controls that they stand for may have different places. -/
structure SameFlags (t t' : Tracked) : Prop where
  rule : t'.rule = t.rule
  applied : t'.applied = t.applied
  pending : t'.resolution = .pending ↔ t.resolution = .pending
  inert : t'.resolution = .inert ↔ t.resolution = .inert

theorem SameFlags.refl (t : Tracked) : t.SameFlags t := ⟨rfl, rfl, Iff.rfl, Iff.rfl⟩

/-- What a reconciler shows of the row. -/
def status (t : Tracked) : ControlStatus :=
  { name := t.rule.name, applied := t.applied, inert := t.resolution = .inert }

/-- A row that was brought to a state is looked up: it is inert iff it resolves to nothing, and else
it is in that state. -/
theorem resolution_bring (m : Mixer) (desired : Bool) (t : Tracked) :
    (t.bring m desired).resolution ≠ .pending ∧
      ((t.bring m desired).resolution = .inert ↔ (t.target? m).isSome = false) ∧
      (t.bring m desired).applied = if (t.target? m).isSome then desired else t.applied := by
  unfold bring
  cases t.target? m <;> simp

section

variable {m m' : Mixer} {t t' : Tracked} (h : t.SameFlags t')

include h

theorem SameFlags.bring (htarget : (t'.target? m').isSome = (t.target? m).isSome) (desired : Bool) :
    (t.bring m desired).SameFlags (t'.bring m' desired) := by
  obtain ⟨hpending, hinert, happlied⟩ := t.resolution_bring m desired
  obtain ⟨hpending', hinert', happlied'⟩ := t'.resolution_bring m' desired
  refine ⟨by rw [rule_bring, rule_bring, h.rule], ?_, ?_, ?_⟩
  · rw [happlied, happlied', htarget, h.applied]
  · exact iff_of_false hpending' hpending
  · rw [hinert, hinert', htarget]

variable (hrule : (t.rule.target? m').isSome = (t.rule.target? m).isSome)

include hrule

/-- A call leaves the rows with the same flags if they resolve alike. -/
theorem SameFlags.answer (hfaithful : t.Faithful m) (hfaithful' : t'.Faithful m')
    (call : Reconciler.Call) : (t.answer m call).SameFlags (t'.answer m' call) := by
  cases call with
  | reset =>
    have hforget : t'.forget = t.forget := by simp [forget, h.rule]
    simp only [Tracked.answer, cleared, hforget, h.rule]
    cases t.rule.once with
    | true => exact .refl _
    | false => exact (SameFlags.refl t.forget).bring hrule false
  | converge facts =>
    have htarget : (t'.target? m').isSome = (t.target? m).isSome := by
      rw [hfaithful, hfaithful', h.rule, hrule]
    have hsettled : t'.settled (t.rule.desired facts) = t.settled (t.rule.desired facts) := by
      simp only [settled, h.rule, h.applied]
    simp only [Tracked.answer, after, h.rule, hsettled]
    cases t.settled (t.rule.desired facts) with
    | true => exact h
    | false => exact h.bring htarget _

omit hrule in
theorem SameFlags.status : t'.status = t.status := by
  simp [Tracked.status, h.rule, h.applied, h.inert]

/-- A call changes them alike. -/
theorem SameFlags.changeAt? (call : Reconciler.Call) (on : Bool) (place : Nat) :
    t'.changeAt? m' call on place = t.changeAt? m call on place := by
  have hchange : t'.change? m' call = t.change? m call := by
    cases call <;> simp only [change?, h.rule, h.applied, hrule]
  simp only [Tracked.changeAt?, hchange, h.rule]

end

end Tracked

theorem Reconciler.snapshot_eq (r : Reconciler) : r.snapshot = r.rows.map Tracked.status := rfl

/-- Walking two lists alike that are alike place by place. -/
theorem filterMap_zipIdx_congr {α β : Type} {R : α → α → Prop} {f g : α × Nat → Option β}
    (hfg : ∀ a b n, R a b → g (b, n) = f (a, n)) {as bs : List α} (h : List.Forall₂ R as bs) :
    ∀ n, (bs.zipIdx n).filterMap g = (as.zipIdx n).filterMap f := by
  induction h with
  | nil => exact fun _ => rfl
  | cons hab _ ih =>
    intro n
    rw [List.zipIdx_cons, List.zipIdx_cons, List.filterMap_cons, List.filterMap_cons, hfg _ _ n hab,
      ih]

/-! ## Two runs -/

section

variable (S : Set String)

/-- The first control of each name is the same on both mixers, but for what its slots hold, or is
missing on both. -/
def Mixer.AgreesOn (m m' : Mixer) : Prop := ∀ name ∈ S, m'.shape? name = m.shape? name

/-- The rows are of one rule, and show the same if it has one of the names. -/
def Tracked.AgreesOn (t t' : Tracked) : Prop :=
  t'.rule = t.rule ∧ (t.rule.name ∈ S → t.SameFlags t')

/-- Two rigs show the same of the names, and each remembers what its own mixer would answer. -/
structure Rig.AgreesOn (s s' : Rig) : Prop where
  mixer : s.mixer.AgreesOn S s'.mixer
  rows : List.Forall₂ (Tracked.AgreesOn S) s.reconciler.rows s'.reconciler.rows
  faithful : s.Faithful
  faithful' : s'.Faithful

end

namespace Rig

open Reconciler (Call)

variable {S : Set String} {s s' : Rig} (h : s.AgreesOn S s')

/-- Rules of the names resolve on both mixers or on none. -/
theorem isSome_target?_of_agreesOn {m m' : Mixer} (h : m.AgreesOn S m') {rule : ControlRule}
    (hname : rule.name ∈ S) : (rule.target? m').isSome = (rule.target? m).isSome := by
  rw [rule.isSome_target?, rule.isSome_target?, h rule.name hname]

/-- Runs keep every row in its place. -/
theorem row_of_table (path : Path) {table : List ControlRule} (m : Mixer) (calls : List Call)
    {place : Nat} {rule : ControlRule} (h : table[place]? = some rule) :
    ∃ t, ((Rig.mk (.ofTable path table) m).run calls).reconciler.rows[place]? = some t ∧
      t.rule = rule := by
  have hrules : ((Rig.mk (.ofTable path table) m).run calls).rules = table := by
    rw [rules_run, rules_ofTable]
  rw [← hrules] at h
  exact exists_row_of_rules h

/-- Where nothing is remembered, mixers that agree on the names are enough. -/
theorem agreesOn_ofTable (path : Path) (table : List ControlRule) {m m' : Mixer}
    (h : m.AgreesOn S m') :
    (Rig.mk (.ofTable path table) m).AgreesOn S (Rig.mk (.ofTable path table) m') where
  mixer := h
  rows := List.forall₂_same.2 fun t _ => ⟨rfl, fun _ => .refl t⟩
  faithful := faithful_ofTable path table m
  faithful' := faithful_ofTable path table m'

include h

/-- **A call** keeps what two rigs show of the names. -/
theorem AgreesOn.serve (call : Call) : (s.serve call).2.AgreesOn S (s'.serve call).2 where
  mixer name hname := by
    have hsame := h.mixer name hname
    unfold Mixer.shape? at *
    rwa [layout_serve, layout_serve]
  rows := by
    obtain ⟨hlength, hzip⟩ := List.forall₂_iff_zip.1 h.rows
    simp only [serve_eq]
    rw [List.forall₂_map_left_iff, List.forall₂_map_right_iff]
    refine List.forall₂_iff_zip.2 ⟨hlength, fun {t t'} hrow => ?_⟩
    obtain ⟨ht, ht'⟩ := List.of_mem_zip hrow
    obtain ⟨hrule, hflags⟩ := hzip hrow
    refine ⟨by rw [Tracked.rule_answer, Tracked.rule_answer, hrule], fun hname => ?_⟩
    rw [Tracked.rule_answer] at hname
    exact (hflags hname).answer (isSome_target?_of_agreesOn h.mixer hname) (h.faithful t ht)
      (h.faithful' t' ht') call
  faithful := h.faithful.serve call
  faithful' := h.faithful'.serve call

/-- Rows of one place show the same. -/
theorem AgreesOn.row {place : Nat} {t t' : Tracked} (ht : s.reconciler.rows[place]? = some t)
    (ht' : s'.reconciler.rows[place]? = some t') : t.AgreesOn S t' := by
  obtain ⟨hlt, rfl⟩ := List.getElem?_eq_some_iff.1 ht
  obtain ⟨hlt', rfl⟩ := List.getElem?_eq_some_iff.1 ht'
  exact h.rows.get hlt hlt'

section

variable [DecidablePred (· ∈ S)]

/-- The changes of a call to rows of the names. -/
theorem AgreesOn.changes (call : Call) :
    (s'.changes call).filter (·.rule.name ∈ S) = (s.changes call).filter (·.rule.name ∈ S) := by
  have hto : ∀ on, (s'.changesTo call on).filter (·.rule.name ∈ S) =
      (s.changesTo call on).filter (·.rule.name ∈ S) := by
    intro on
    unfold changesTo
    rw [List.filter_filterMap, List.filter_filterMap]
    refine filterMap_zipIdx_congr (fun t t' place hrow => ?_) h.rows 0
    obtain ⟨hrule, hflags⟩ := hrow
    rw [Tracked.filter_changeAt?, Tracked.filter_changeAt?, hrule]
    split
    next hname =>
      exact (hflags hname).changeAt? (isSome_target?_of_agreesOn h.mixer hname) call on place
    next => rfl
  rw [changes_eq, changes_eq, List.filter_append, List.filter_append, List.filter_reverse,
    List.filter_reverse, hto, hto]

omit h in
/-- What a call enters in the journal about controls of the names. -/
theorem filter_journal_serve (hfaithful : s.Faithful) (call : Call) :
    (s.serve call).2.mixer.journal.filter (·.name ∈ S) = s.mixer.journal.filter (·.name ∈ S) ++
      ((s.changes call).filter (·.rule.name ∈ S)).flatMap fun c =>
        c.rule.entries (s.mixer.shape? c.rule.name) c.on := by
  rw [journal_serve hfaithful, List.filter_append, List.filterMap_flatMap]
  simp only [ControlRule.filterMap_logged?_writes]
  rw [filter_flatMap_of_forall fun c _ e he => ?_]
  rw [ControlRule.name_of_mem_entries he]

/-- **Runs that show the same.** From rigs that show the same of the names, the same calls lead to
such rigs, and write the same to controls of the names. -/
theorem AgreesOn.run (calls : List Call) :
    (s.run calls).AgreesOn S (s'.run calls) ∧ ∃ written,
      (s.run calls).mixer.journal.filter (·.name ∈ S) =
          s.mixer.journal.filter (·.name ∈ S) ++ written ∧
        (s'.run calls).mixer.journal.filter (·.name ∈ S) =
          s'.mixer.journal.filter (·.name ∈ S) ++ written := by
  induction calls generalizing s s' with
  | nil => exact ⟨h, [], (List.append_nil _).symm, (List.append_nil _).symm⟩
  | cons call calls ih =>
    obtain ⟨hagrees, written, hwritten, hwritten'⟩ := ih (h.serve call)
    have hentries : ∀ c ∈ (s.changes call).filter (·.rule.name ∈ S),
        c.rule.entries (s'.mixer.shape? c.rule.name) c.on =
          c.rule.entries (s.mixer.shape? c.rule.name) c.on := fun c hc => by
      rw [h.mixer c.rule.name (of_decide_eq_true (List.mem_filter.1 hc).2)]
    refine ⟨hagrees, ((s.changes call).filter (·.rule.name ∈ S)).flatMap (fun c =>
      c.rule.entries (s.mixer.shape? c.rule.name) c.on) ++ written, ?_, ?_⟩
    · exact hwritten.trans (by rw [filter_journal_serve h.faithful, List.append_assoc])
    · refine hwritten'.trans ?_
      rw [filter_journal_serve h.faithful', h.changes, List.flatMap_congr hentries,
        List.append_assoc]

omit h in
/-- **Faults stay with their control.** Take any table, any set of names and any two mixers whose
first controls of these names are the same in kind, number of slots, limit, choices and refusal of
writes, or missing on both, whatever else the mixers have. Then any calls add the same to both
journals as far as controls of these names go, in the same order, and every row of one of these
names is applied on both or on none, and skipped for good on both or on none. -/
theorem faults_isolated {m m' : Mixer} (hagrees : m.AgreesOn S m') (path : Path)
    (table : List ControlRule) (calls : List Call) :
    let s := (Rig.mk (.ofTable path table) m).run calls
    let s' := (Rig.mk (.ofTable path table) m').run calls
    (∃ written,
      s.mixer.journal.filter (·.name ∈ S) = m.journal.filter (·.name ∈ S) ++ written ∧
        s'.mixer.journal.filter (·.name ∈ S) = m'.journal.filter (·.name ∈ S) ++ written) ∧
      ∀ (place : Nat) (rule : ControlRule), table[place]? = some rule → rule.name ∈ S →
        ∃ status : ControlStatus, status.name = rule.name ∧
          s.reconciler.snapshot[place]? = some status ∧
          s'.reconciler.snapshot[place]? = some status := by
  intro s s'
  obtain ⟨hrun, hwritten⟩ := (agreesOn_ofTable path table hagrees).run calls
  refine ⟨hwritten, fun place rule hplace hname => ?_⟩
  obtain ⟨t, ht, rfl⟩ := row_of_table path m calls hplace
  obtain ⟨t', ht', -⟩ := row_of_table path m' calls hplace
  have hflags := (hrun.row ht ht').2 hname
  refine ⟨t.status, rfl, ?_, ?_⟩
  · rw [Reconciler.snapshot_eq, List.getElem?_map, ht]
    rfl
  · rw [Reconciler.snapshot_eq, List.getElem?_map, ht', Option.map_some, hflags.status]

omit h in
/-- A mixer without the volume, whose other controls stand in another order behind one that no row
names: the switches of the table are written as on a mixer that has everything. -/
theorem faults_isolated_from_missing_volume :
    let table := [ControlRule.level "Source" 1 .all .allOutputs,
      (ControlRule.level "Volume" 40 .all .speaker).setOnce, .level "Sink" 1 .all .speaker]
    let whole := ((({} : Mixer).addSwitch "Source" 1).addLevel "Volume" 1 63).addSwitch "Sink" 2
    let faulty := ((({} : Mixer).addLevel "Other" 1 7).addSwitch "Sink" 2).addSwitch "Source" 1
    let switches := {name | name ∈ ["Source", "Sink"]}
    let calls := [Call.reset, .converge ⟨.normal, .speaker, true⟩,
      .converge ⟨.inCall, .earpiece, true⟩]
    let s := (Rig.mk (.ofTable .output table) whole).run calls
    let s' := (Rig.mk (.ofTable .output table) faulty).run calls
    whole.AgreesOn switches faulty ∧
      s'.mixer.journal.filter (·.name ∈ switches) = s.mixer.journal.filter (·.name ∈ switches) ∧
      s.mixer.journal.length = s'.mixer.journal.length + 1 := by
  intro table whole faulty switches calls s s'
  have hagrees : whole.AgreesOn switches faulty := by
    intro name hname
    rcases List.mem_pair.1 hname with rfl | rfl <;> decide
  obtain ⟨⟨written, hwritten, hwritten'⟩, -⟩ := faults_isolated hagrees .output table calls
  exact ⟨hagrees, hwritten'.trans hwritten.symm, by decide⟩

end

end Rig

end HandsetAudio
