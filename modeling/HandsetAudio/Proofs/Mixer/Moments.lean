import HandsetAudio.Proofs.Mixer.Kept

/-!
# What the mixer holds while it is written

The order of the writes of a pass decides what a control holds at the moment at which another one
is written, and the order of the passes decides it across them.

> `Sound.whenever_raised`: while a row goes on, each row downstream of it holds what it held, or is
> off already if the pass releases it.
> `Codec.mixer_run`: calls perform their writes one after the other (`Codec.writes`), so what holds
> at every write of each call holds at every write of a run (`Mixer.Whenever.append`).
-/

namespace HandsetAudio

open ControlRule

namespace Mixer

/-- At every one of the writes that `P` tells of, what the mixer holds by then meets `Q`. -/
def Whenever (m : Mixer) (ws : List SlotWrite) (P : SlotWrite → Prop) (Q : Mixer → Prop) : Prop :=
  ∀ before w after, ws = before ++ w :: after → P w → Q (m.perform before)

section

variable {m : Mixer} {ws vs : List SlotWrite} {P : SlotWrite → Prop} {Q : Mixer → Prop}

theorem whenever_of_not (h : ∀ w ∈ ws, ¬P w) : m.Whenever ws P Q := by
  rintro before w after rfl hw
  exact absurd hw (h w (List.mem_append_right _ List.mem_cons_self))

theorem Whenever.append (h : m.Whenever ws P Q) (h' : (m.perform ws).Whenever vs P Q) :
    m.Whenever (ws ++ vs) P Q := by
  intro before w after hsplit hw
  rcases List.append_eq_append_iff.1 hsplit with ⟨rest, rfl, hvs⟩ | ⟨rest, hws, hrest⟩
  · rw [perform_append]
    exact h' rest w after hvs hw
  · cases rest with
    | nil =>
      -- the write is the first of the second part
      rw [List.append_nil] at hws
      subst hws
      exact h' [] w after hrest.symm hw
    | cons w' rest =>
      obtain ⟨rfl, -⟩ := List.cons.inj hrest
      exact h before w rest hws hw

/-- Writes that come in groups are looked at group by group. -/
theorem whenever_flatMap {α : Type} {f : α → List SlotWrite} {l : List α}
    (h : ∀ before a after, l = before ++ a :: after →
      (m.perform (before.flatMap f)).Whenever (f a) P Q) : m.Whenever (l.flatMap f) P Q := by
  induction l generalizing m with
  | nil => exact whenever_of_not fun w hw => (nomatch hw)
  | cons a l ih =>
    rw [List.flatMap_cons]
    refine (h [] a l rfl).append (ih fun before b after hl => ?_)
    rw [← perform_append, ← List.flatMap_cons]
    exact h (a :: before) b after (by rw [hl]; rfl)

end

end Mixer

/-! ## One pass -/

namespace Rig

variable {s : Rig}

/-- The writes of a call, in order. -/
def writes (s : Rig) (call : Reconciler.Call) : List SlotWrite :=
  (s.changes call).flatMap fun c => c.rule.writes s.mixer c.on

section

variable (hnames : (s.rules.map (·.name)).Nodup)

include hnames

/-- Rows of one name stand in one place. -/
theorem place_eq_of_name_eq {i j : Nat} {t t' : Tracked} (ht : s.reconciler.rows[i]? = some t)
    (ht' : s.reconciler.rows[j]? = some t') (hname : t.rule.name = t'.rule.name) : i = j := by
  have hat : ∀ {k : Nat} {u : Tracked}, s.reconciler.rows[k]? = some u →
      (s.rules.map (·.name))[k]? = some u.rule.name := by
    intro k u hu
    rw [rules, List.getElem?_map, List.getElem?_map, hu]
    rfl
  have hlt := (List.getElem?_eq_some_iff.1 (hat ht)).1
  refine (List.getElem?_inj hlt hnames).1 ?_
  rw [hat ht, hat ht', hname]

/-- By the time a row goes on in a pass, a row downstream of it holds what it held, unless the
pass releases it: then it is off. -/
theorem holds_upstream {t : Tracked} {place : Nat} (ht : s.reconciler.rows[place]? = some t)
    (hsteady : t.rule.once = false) (hserves : s.mixer.Serves t.rule)
    (hholds : s.mixer.Holds t.rule t.applied) {facts : Facts} {before after : List RowChange}
    {c : RowChange} (hsplit : s.changes (.converge facts) = before ++ c :: after)
    (hon : c.on = true) (hplace : c.place < place) :
    (s.mixer.perform (before.flatMap fun c => c.rule.writes s.mixer c.on)).Holds t.rule
      (t.applied && t.rule.desired facts) := by
  have hmem := List.mem_of_getElem? ht
  have hsome := hserves.isSome_target?
  have horder := s.pairwise_changes (.converge facts)
  rw [hsplit] at horder
  obtain ⟨-, hafter, hbetween⟩ := List.pairwise_append.1 horder
  have hchange : ∀ {c' : RowChange}, c' ∈ before → c'.rule.name = t.rule.name →
      c'.rule = t.rule ∧ t.change? s.mixer (.converge facts) = some c'.on := fun hc' hname =>
    change_of_name_eq hnames hmem (hsplit ▸ List.mem_append_left _ hc') hname
  have hunchanged : (∀ c' ∈ before, c'.rule.name ≠ t.rule.name) →
      (s.mixer.perform (before.flatMap fun c => c.rule.writes s.mixer c.on)).Holds t.rule
        t.applied := fun hne =>
    hholds.of_value?_eq (Mixer.layout_perform ..) (Mixer.value?_perform_changes hne)
  cases happlied : t.applied <;> cases hdesired : t.rule.desired facts
  · -- off and unwanted: the pass does nothing to it
    rw [happlied] at hunchanged
    refine hunchanged fun c' hc' hname => ?_
    have hnone := (hchange hc' hname).2
    simp [Tracked.change?, happlied, hdesired] at hnone
  · -- it goes on after what is upstream of it
    rw [happlied] at hunchanged
    refine hunchanged fun c' hc' hname => ?_
    obtain ⟨-, hsome'⟩ := hchange hc' hname
    have hon' : c'.on = true := by
      simpa [Tracked.change?, hsome, happlied, hdesired] using hsome'.symm
    have hprecedes := hbetween c' hc' c List.mem_cons_self
    obtain ⟨t', ht', hrule', -⟩ := mem_changes.1 (hsplit ▸ List.mem_append_left _ hc')
    have hsame := place_eq_of_name_eq hnames ht' ht (by rw [← hrule', hname])
    rw [RowChange.Precedes, hon', hon, hsame] at hprecedes
    exact Nat.lt_asymm hprecedes hplace
  · -- it is released before anything goes on
    have hoff : t.change? s.mixer (.converge facts) = some false := by
      simp [Tracked.change?, hsome, happlied, hdesired, hsteady]
    have hreleased : ⟨place, t.rule, false⟩ ∈ before := by
      have hin : (⟨place, t.rule, false⟩ : RowChange) ∈ before ++ c :: after :=
        hsplit ▸ mem_changes.2 ⟨t, ht, rfl, hoff⟩
      rcases List.mem_append.1 hin with hin | hin
      · exact hin
      · rcases List.mem_cons.1 hin with rfl | hin
        · cases hon
        · have hprecedes := (List.pairwise_cons.1 hafter).1 _ hin
          rw [RowChange.Precedes, hon] at hprecedes
          exact absurd hprecedes id
    refine Mixer.holds_perform_changes hreleased (fun c' hc' hname => ?_) hserves
    obtain ⟨hrule, hsame⟩ := hchange hc' hname
    exact ⟨hrule, Option.some.inj (hsame.symm.trans hoff)⟩
  · -- on and wanted: the pass does nothing to it
    rw [happlied] at hunchanged
    refine hunchanged fun c' hc' hname => ?_
    have hnone := (hchange hc' hname).2
    simp [Tracked.change?, happlied, hdesired] at hnone

end

end Rig

namespace Codec

variable {c : Codec}

/-- What a write of a pass goes to is a row that the pass changes. -/
theorem exists_change_of_mem_writes {s : Rig} {call : Reconciler.Call} {rule : ControlRule}
    {on : Bool} {w : SlotWrite} (hw : w ∈ s.writes call) (hrule : w ∈ rule.writes s.mixer on) :
    ∃ t ∈ s.reconciler.rows, t.rule.name = rule.name ∧ t.change? s.mixer call ≠ none := by
  obtain ⟨change, hchange, hwrites⟩ := List.mem_flatMap.1 hw
  obtain ⟨t, hplace, hsame, hchanged⟩ := Rig.mem_changes.1 hchange
  refine ⟨t, List.mem_of_getElem? hplace, ?_, by rw [hchanged]; exact Option.some_ne_none _⟩
  rw [← hsame]
  exact Mixer.name_eq_of_mem_writes hwrites hrule

section

variable (h : c.Sound) {p : Path}

include h

theorem Sound.serves {rule : ControlRule} (hrule : rule ∈ p.table) : c.mixer.Serves rule :=
  (Mixer.serves_congr h.1.layout).2 (serves_ofTables _ (Path.mem_tables hrule))

theorem Sound.shows {rule : ControlRule} (hrule : rule ∈ p.table) : c.mixer.Shows rule :=
  (Mixer.shows_congr h.1.layout).2 (shows_ofTables _ (Path.mem_tables hrule))

theorem Sound.nodup_names : ((c.rig p).rules.map (·.name)).Nodup := by
  rw [h.1.rules]
  exact p.nodup_names_table

/-- A row of the table is tracked in its place. -/
theorem Sound.row {i : Nat} {rule : ControlRule} (hi : p.table[i]? = some rule) :
    ∃ t, (c.reconciler p).rows[i]? = some t ∧ t.rule = rule := by
  have hrules : ((c.reconciler p).rows.map (·.rule))[i]? = some rule := by
    rw [← hi]
    exact congrArg (·[i]?) (h.1.rules p)
  rw [List.getElem?_map] at hrules
  exact Option.map_eq_some_iff.1 hrules

/-- A write that switches a row on belongs to the change that does so. -/
theorem Sound.change_of_written {i : Nat} {rule : ControlRule} (hi : p.table[i]? = some rule)
    {call : Reconciler.Call} {change : RowChange} (hchange : change ∈ (c.rig p).changes call)
    {w : SlotWrite} (hwrites : w ∈ change.rule.writes c.mixer change.on)
    (hw : w ∈ rule.writes c.mixer true) :
    change.place = i ∧ change.rule = rule ∧ change.on = true := by
  obtain ⟨t, ht, rfl⟩ := h.row hi
  obtain ⟨r, hr, hrule, -⟩ := Rig.mem_changes.1 hchange
  have hname := Mixer.name_eq_of_mem_writes hwrites hw
  have hplace := Rig.place_eq_of_name_eq h.nodup_names hr ht (by rw [← hrule, hname])
  rw [hplace] at hr
  have hsame : change.rule = t.rule := by rw [hrule, Option.some.inj (hr.symm.trans ht)]
  refine ⟨hplace, hsame, ?_⟩
  -- the value that is written is not zero
  obtain ⟨id, value, hresolve, -, hvalue⟩ := h.shows (List.mem_of_getElem? hi)
  obtain ⟨v, hv, hset, -⟩ := Mixer.mem_writes.1 hwrites
  obtain ⟨v', hv', hset', -⟩ := Mixer.mem_writes.1 hw
  rw [hresolve] at hv'
  obtain ⟨-, rfl⟩ := Prod.mk.inj (Except.ok.inj hv')
  rw [hset', if_pos rfl] at hset
  by_contra hoff
  rw [if_neg hoff] at hset
  exact hvalue hset

/-- **Downstream first**: while a pass writes a row on, a row downstream of it holds what it was
wanted to at the pass before, or is off already if it is not wanted any more. -/
theorem Sound.whenever_raised {i j : Nat} {up down : ControlRule} (hi : p.table[i]? = some up)
    (hj : p.table[j]? = some down) (hij : i < j) (hsteady : down.once = false) {f : Facts}
    (hline : (c.reconciler p).InLine f) (f' : Facts) :
    c.mixer.Whenever ((c.rig p).writes (.converge f')) (· ∈ up.writes c.mixer true)
      fun m => m.Holds down (down.desired f && down.desired f') := by
  obtain ⟨t, ht, rfl⟩ := h.row hj
  have hmem := List.mem_of_getElem? ht
  have happlied := hline t hmem hsteady (h.not_inert hmem)
  refine Mixer.whenever_flatMap fun before change after hsplit ws w vs hws hw => ?_
  have hchange : change ∈ (c.rig p).changes (.converge f') :=
    hsplit ▸ List.mem_append_right _ List.mem_cons_self
  have hgroup : change.rule.writes c.mixer change.on = ws ++ w :: vs := hws
  obtain ⟨hplace, hsame, hon⟩ := h.change_of_written hi hchange
    (hgroup ▸ List.mem_append_right _ List.mem_cons_self) hw
  have hholds := Rig.holds_upstream h.nodup_names ht hsteady (h.serves (List.mem_of_getElem? hj))
    ((h.2 p).holds t hmem hsteady) hsplit hon (hplace ▸ hij)
  rw [happlied] at hholds
  -- within the writes of the change, no other control is touched
  refine hholds.of_value?_eq (Mixer.layout_perform ..) (Mixer.value?_perform_of_ne fun v hv => ?_)
  refine ⟨change.rule, change.on, ?_, fun hname => ?_⟩
  · rw [ControlRule.writes_congr (Mixer.layout_perform ..)]
    exact hgroup ▸ List.mem_append_left _ hv
  · obtain ⟨u, hu, hrule⟩ := h.row hi
    have hplaces := Rig.place_eq_of_name_eq h.nodup_names hu ht (by rw [hrule, ← hsame, hname])
    exact Nat.ne_of_lt hij hplaces

/-- A pass that wants a row as the pass before did leaves its control alone. -/
theorem Sound.not_written {f f' : Facts} (hline : (c.reconciler p).InLine f) {rule : ControlRule}
    (hrule : rule ∈ p.table) (hsteady : rule.once = false)
    (hsame : rule.desired f = rule.desired f') (on : Bool) :
    ∀ w ∈ (c.rig p).writes (.converge f'), w ∉ rule.writes c.mixer on := by
  intro w hw hwrites
  obtain ⟨t, ht, hname, hchanged⟩ := exists_change_of_mem_writes hw hwrites
  have htable : t.rule ∈ p.table := h.1.mem_table ht
  obtain rfl : t.rule = rule := List.inj_on_of_nodup_map p.nodup_names_table htable hrule hname
  have happlied := hline t ht hsteady (h.not_inert ht)
  rw [hsame] at happlied
  exact hchanged (Tracked.change?_of_applied happlied _)

/-- A call on one path leaves the controls of the other alone. -/
theorem Sound.not_written_of_ne {q : Path} (hne : q ≠ p) (call : Reconciler.Call)
    {rule : ControlRule} (hrule : rule ∈ q.table) (on : Bool) :
    ∀ w ∈ (c.rig p).writes call, w ∉ rule.writes c.mixer on := by
  intro w hw hwrites
  obtain ⟨t, ht, hname, -⟩ := exists_change_of_mem_writes hw hwrites
  exact Path.name_ne_of_ne hne hrule (h.1.mem_table ht) hname.symm

/-- A pass that is the first to want a row writes it on. -/
theorem Sound.exists_written {f f' : Facts} (hline : (c.reconciler p).InLine f) {rule : ControlRule}
    (hrule : rule ∈ p.table) (hsteady : rule.once = false) (hwas : rule.desired f = false)
    (hnow : rule.desired f' = true) :
    ∃ w ∈ (c.rig p).writes (.converge f'), w ∈ rule.writes c.mixer true := by
  obtain ⟨i, hi⟩ := List.mem_iff_getElem?.1 hrule
  obtain ⟨t, ht, rfl⟩ := h.row hi
  have hmem := List.mem_of_getElem? ht
  have happlied := (hline t hmem hsteady (h.not_inert hmem)).trans hwas
  obtain ⟨id, value, hresolve, hslots, -⟩ := h.shows hrule
  have hsome := (h.serves hrule).isSome_target?
  have hchange : (⟨i, t.rule, true⟩ : RowChange) ∈ (c.rig p).changes (.converge f') :=
    Rig.mem_changes.2 ⟨t, ht, rfl, by
      show t.change? c.mixer (.converge f') = some true
      simp [Tracked.change?, hsome, happlied, hnow]⟩
  have hwrite : (⟨id, 0, value⟩ : SlotWrite) ∈ t.rule.writes c.mixer true :=
    Mixer.mem_writes.2 ⟨value, hresolve, (if_pos rfl).symm, hslots⟩
  exact ⟨_, List.mem_flatMap.2 ⟨_, hchange, hwrite⟩, hwrite⟩

/-- On the mixer made for the tables no write of a pass is refused. -/
theorem Sound.accepts_writes (call : Reconciler.Call) :
    ∀ w ∈ (c.rig p).writes call, c.mixer.Accepts w := by
  intro w hw
  obtain ⟨change, hchange, hwrites⟩ := List.mem_flatMap.1 hw
  obtain ⟨t, ht, hrule, -⟩ := Rig.mem_changes.1 hchange
  have hmem := h.1.mem_table (List.mem_of_getElem? ht)
  obtain ⟨id, value, hresolve, haccepts⟩ := h.serves hmem
  obtain ⟨value', hresolve', hvalue, hslot⟩ := Mixer.mem_writes.1 hwrites
  rw [hrule] at hresolve'
  obtain ⟨hid, rfl⟩ := Prod.mk.inj (Except.ok.inj (hresolve'.symm.trans hresolve))
  obtain ⟨wid, slot, wvalue⟩ := w
  obtain rfl : wid = id := hid
  obtain rfl : wvalue = if change.on then value' else 0 := hvalue
  obtain ⟨hzero, htarget⟩ := haccepts slot hslot
  cases change.on with
  | true => exact htarget
  | false => exact hzero

end

/-! ## Several calls -/

/-- The writes of several calls, in order. -/
def writes (c : Codec) : List (Path × Reconciler.Call) → List SlotWrite
  | [] => []
  | (p, call) :: calls => (c.rig p).writes call ++ (c.serve (p, call)).writes calls

theorem Sound.mixer_serve (h : c.Sound) (p : Path) (call : Reconciler.Call) :
    (c.serve (p, call)).mixer = c.mixer.perform ((c.rig p).writes call) := by
  rw [Codec.mixer_serve, Rig.mixer_serve (.inr (h.2 p).faithful)]
  rfl

/-- Calls perform their writes one after the other. -/
theorem Sound.mixer_run (h : c.Sound) (calls : List (Path × Reconciler.Call)) :
    (c.run calls).mixer = c.mixer.perform (c.writes calls) := by
  induction calls generalizing c with
  | nil => rfl
  | cons call calls ih =>
    obtain ⟨p, call⟩ := call
    rw [run_cons, ih (h.serve _), writes, Mixer.perform_append, h.mixer_serve]

/-- None of the writes is refused. -/
theorem Sound.accepts_run (h : c.Sound) (calls : List (Path × Reconciler.Call)) :
    ∀ w ∈ c.writes calls, c.mixer.Accepts w := by
  induction calls generalizing c with
  | nil => exact fun w hw => (nomatch hw)
  | cons call calls ih =>
    obtain ⟨p, call⟩ := call
    intro w hw
    rcases List.mem_append.1 hw with hw | hw
    · exact h.accepts_writes call w hw
    · exact (Mixer.accepts_congr (layout_serve c p call) w).1 (ih (h.serve _) w hw)

end Codec

end HandsetAudio
