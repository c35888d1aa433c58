import HandsetAudio.Proofs.Mixer.Kept

/-!
# Paths that share no control

Where the two tables of a codec name different controls (`Codec.Apart`), the two paths share the
mixer, its layout and its journal, and still a call on one path does nothing that the other path
could tell. What a path shows (`Rig.Alike`) is what its reconciler remembers, the journal of its
own controls and what their slots hold. Main statements:

> `Apart.alone`: after any calls on both paths, each shows what it would show if only its own
> calls had been made.
> `Apart.controls_eq`: what the slots hold, of whatever control, is known by what the two paths
> show.
-/

namespace HandsetAudio

/-! ## Mixers of one layout -/

namespace Mixer

section

variable {m m' : Mixer} (h : m'.layout = m.layout) {slot : Nat}

include h

/-- A slot that holds the same on both holds the same after a write to both. -/
theorem valueAt_put_congr {id : ControlId} (hv : m'.valueAt id slot = m.valueAt id slot)
    (w : SlotWrite) : (m'.put w).valueAt id slot = (m.put w).valueAt id slot := by
  by_cases hw : w.id = id ∧ w.slot = slot
  · obtain ⟨rfl, rfl⟩ := hw
    by_cases haccepts : m.Accepts w
    · rw [valueAt_put_self haccepts, valueAt_put_self ((accepts_congr h w).2 haccepts)]
    · rw [put_of_not_accepts haccepts, put_of_not_accepts (mt (accepts_congr h w).1 haccepts), hv]
  · rw [valueAt_put_of_ne hw, valueAt_put_of_ne hw, hv]

theorem valueAt_perform_congr {id : ControlId} (hv : m'.valueAt id slot = m.valueAt id slot)
    (ws : List SlotWrite) : (m'.perform ws).valueAt id slot = (m.perform ws).valueAt id slot := by
  induction ws generalizing m m' with
  | nil => exact hv
  | cons w ws ih =>
    have hlayout : (m'.put w).layout = (m.put w).layout := by rw [layout_put, layout_put, h]
    exact ih hlayout (valueAt_put_congr h hv w)

theorem value?_perform_congr {name : String} (hv : m'.value? name slot = m.value? name slot)
    (ws : List SlotWrite) :
    (m'.perform ws).value? name slot = (m.perform ws).value? name slot := by
  have hfind := find?_congr h name
  have hafter := find?_congr (layout_perform m ws) name
  have hafter' := find?_congr (layout_perform m' ws) name
  cases hid : m.find? name with
  | none => simp [value?, hafter, hafter', hfind, hid]
  | some id =>
    rw [hid] at hfind
    rw [value?_of_find? hid, value?_of_find? hfind] at hv
    rw [value?_of_find? (hafter.trans hid), value?_of_find? (hafter'.trans hfind)]
    exact valueAt_perform_congr h hv ws

omit slot in
/-- Controls are known by the layout and by what their slots hold. -/
theorem controls_ext (hv : ∀ id slot, m'.valueAt id slot = m.valueAt id slot) :
    m'.controls = m.controls := by
  refine List.ext_getElem? fun id => ?_
  have hblank := congrArg (·[id]?) h
  have hvalues := hv id
  unfold valueAt at hvalues
  simp only [getElem?_layout] at hblank
  cases hc : m.controls[id]? with
  | none =>
    rw [hc] at hblank
    exact Option.map_eq_none_iff.1 hblank
  | some c =>
    rw [hc] at hblank hvalues
    obtain ⟨c', hc', hsame⟩ := Option.map_eq_some_iff.1 hblank
    rw [hc'] at hvalues ⊢
    simp only [Option.bind_some] at hvalues
    simp only [Control.blank, Control.mk.injEq] at hsame
    obtain ⟨hname, hkind, -, hmax, hchoices, hrefuses⟩ := hsame
    obtain ⟨name, kind, values, max, choices, refuses⟩ := c
    obtain ⟨name', kind', values', max', choices', refuses'⟩ := c'
    obtain rfl : values' = values := List.ext_getElem? hvalues
    simp_all

end

end Mixer

namespace Tracked

section

variable {m m' : Mixer} (h : m'.layout = m.layout)

include h

theorem answer_congr (call : Reconciler.Call) (t : Tracked) :
    t.answer m' call = t.answer m call := by
  cases call with
  | reset => simp only [answer, cleared, bring_congr h]
  | converge facts => simp only [answer, after, bring_congr h]

theorem callWrites_congr (call : Reconciler.Call) (ts : List Tracked) :
    callWrites m' call ts = callWrites m call ts := by
  have hoff : ∀ facts, goesOff facts m' = goesOff facts m := fun facts =>
    funext fun t => goesOff_congr h t facts
  have hon : ∀ facts, goesOn facts m' = goesOn facts m := fun facts =>
    funext fun t => goesOn_congr h t facts
  have hclears : clears m' = clears m := funext fun t => clears_congr h t
  have hwrites : ∀ on, writes m' on = writes m on := fun on => funext fun t => writes_congr h t on
  cases call with
  | reset => simp only [callWrites, resetWrites, hclears, hwrites]
  | converge facts => simp only [callWrites, passWrites, hoff, hon, hwrites]

end

end Tracked

/-! ## What a path shows -/

namespace Rig

open Reconciler (Call)

/-- The entry is about a control that the table names. -/
def owns (s : Rig) (e : MixerWrite) : Bool := decide (e.name ∈ s.rules.map (·.name))

/-- The journal of the controls that the table names. -/
def ownJournal (s : Rig) : List MixerWrite := s.mixer.journal.filter s.owns

/-- Two rigs show the same of their path: what is remembered, the layout, the journal of the
path's controls and what their slots hold. -/
structure Alike (s s' : Rig) : Prop where
  reconciler : s'.reconciler = s.reconciler
  layout : s'.mixer.layout = s.mixer.layout
  journal : s'.ownJournal = s.ownJournal
  values : ∀ rule ∈ s.rules, ∀ slot, s'.mixer.value? rule.name slot = s.mixer.value? rule.name slot

section

variable {s s' s'' : Rig}

theorem Alike.refl (s : Rig) : s.Alike s := ⟨rfl, rfl, rfl, fun _ _ _ => rfl⟩

theorem Alike.rules (h : s.Alike s') : s'.rules = s.rules := by
  unfold Rig.rules
  rw [h.reconciler]

theorem Alike.symm (h : s.Alike s') : s'.Alike s :=
  ⟨h.reconciler.symm, h.layout.symm, h.journal.symm, fun rule hrule slot =>
    (h.values rule (h.rules ▸ hrule) slot).symm⟩

theorem Alike.trans (h : s.Alike s') (h' : s'.Alike s'') : s.Alike s'' :=
  ⟨h'.reconciler.trans h.reconciler, h'.layout.trans h.layout, h'.journal.trans h.journal,
    fun rule hrule slot =>
      (h'.values rule (h.rules.symm ▸ hrule) slot).trans (h.values rule hrule slot)⟩

theorem ownJournal_serve (s : Rig) (call : Call) :
    (s.serve call).2.ownJournal = s.ownJournal ++
      ((Tracked.callWrites s.mixer call s.reconciler.rows).filterMap s.mixer.logged?).filter
        s.owns := by
  have howns : (s.serve call).2.owns = s.owns := by
    unfold owns
    rw [rules_serve]
  unfold ownJournal
  rw [howns, serve_eq, Mixer.journal_perform, List.filter_append]

/-- **The same call** on rigs that show the same. -/
theorem Alike.serve (h : s.Alike s') (call : Call) : (s.serve call).2.Alike (s'.serve call).2 := by
  have hwrites : Tracked.callWrites s'.mixer call s'.reconciler.rows =
      Tracked.callWrites s.mixer call s.reconciler.rows := by
    rw [h.reconciler, Tracked.callWrites_congr h.layout]
  refine ⟨?_, ?_, ?_, fun rule hrule slot => ?_⟩
  · simp only [serve_eq, h.reconciler, funext (Tracked.answer_congr h.layout call)]
  · rw [layout_serve, layout_serve, h.layout]
  · have howns : s'.owns = s.owns := by
      unfold owns
      rw [h.rules]
    have hlogged : s'.mixer.logged? = s.mixer.logged? := funext (Mixer.logged?_congr h.layout)
    rw [ownJournal_serve, ownJournal_serve, h.journal, hwrites, howns, hlogged]
  · rw [rules_serve] at hrule
    simp only [serve_eq, hwrites]
    exact Mixer.value?_perform_congr h.layout (h.values rule hrule slot) _

end

end Rig

namespace Codec

/-- The tables of the two paths share no name, and what is remembered of their rows is what the
mixer would answer. -/
structure Apart (c : Codec) : Prop where
  names : ∀ p q, p ≠ q → ∀ rule ∈ (c.rig p).rules, ∀ rule' ∈ (c.rig q).rules,
    rule.name ≠ rule'.name
  memory : ∀ p, (c.rig p).Faithful

theorem Faithful.apart {c : Codec} (h : c.Faithful) : c.Apart where
  names p q hne rule hrule rule' hrule' := by
    rw [h.rules] at hrule hrule'
    exact Path.name_ne_of_ne hne hrule hrule'
  memory := h.memory

/-- The calls on one path. -/
def callsOn (p : Path) (calls : List (Path × Reconciler.Call)) : List Reconciler.Call :=
  (calls.filter (·.1 = p)).map Prod.snd

section

variable {c : Codec} (h : c.Apart)

include h

theorem Apart.serve (call : Path × Reconciler.Call) : (c.serve call).Apart where
  names p q hne rule hrule rule' hrule' := by
    rw [rules_serve] at hrule hrule'
    exact h.names p q hne rule hrule rule' hrule'
  memory := memory_serve h.memory call

theorem Apart.run (calls : List (Path × Reconciler.Call)) : (c.run calls).Apart := by
  induction calls generalizing c with
  | nil => exact h
  | cons call calls ih => exact ih (h.serve call)

/-- What a call writes belongs to its path. -/
theorem Apart.exists_rule {p : Path} {call : Reconciler.Call} {w : SlotWrite}
    (hw : w ∈ Tracked.callWrites (c.rig p).mixer call (c.rig p).reconciler.rows) :
    ∃ rule ∈ (c.rig p).rules, ∃ on, w ∈ rule.writes c.mixer on := by
  rw [Rig.callWrites_eq_changes (.inr (h.memory p))] at hw
  obtain ⟨change, hchange, hw⟩ := List.mem_flatMap.1 hw
  obtain ⟨t, hplace, hrule, -⟩ := Rig.mem_changes.1 hchange
  refine ⟨change.rule, ?_, change.on, hw⟩
  rw [hrule]
  exact List.mem_map_of_mem (List.mem_of_getElem? hplace)

/-- **A call on the other path** shows nothing on this one. -/
theorem Apart.serve_of_ne {p q : Path} (hne : q ≠ p) (call : Reconciler.Call) :
    (c.rig q).Alike ((c.serve (p, call)).rig q) := by
  have hmixer : (c.serve (p, call)).mixer =
      c.mixer.perform (Tracked.callWrites (c.rig p).mixer call (c.rig p).reconciler.rows) := by
    rw [mixer_serve, Rig.serve_eq]
    rfl
  refine ⟨reconciler_serve_of_ne c hne call, layout_serve c p call, ?_, fun rule hrule slot => ?_⟩
  · have howns : ((c.serve (p, call)).rig q).owns = (c.rig q).owns := by
      unfold Rig.owns
      rw [rules_serve]
    unfold Rig.ownJournal
    rw [howns]
    show (c.serve (p, call)).mixer.journal.filter _ = c.mixer.journal.filter _
    rw [hmixer, Mixer.journal_perform, List.filter_append, List.append_right_eq_self]
    refine List.filter_eq_nil_iff.2 fun e he howned => ?_
    -- an entry has the name of a rule of its path, and that is none of this one
    obtain ⟨w, hw, hlogged⟩ := List.mem_filterMap.1 he
    obtain ⟨rule, hrule, on, hw⟩ := h.exists_rule hw
    obtain ⟨rule', hrule', hname⟩ := List.mem_map.1 (of_decide_eq_true howned)
    exact h.names p q hne.symm rule hrule rule' hrule'
      ((Mixer.name_of_logged hw hlogged).symm.trans hname.symm)
  · show (c.serve (p, call)).mixer.value? rule.name slot = c.mixer.value? rule.name slot
    rw [hmixer]
    refine Mixer.value?_perform_of_ne (fun w hw => ?_) slot
    obtain ⟨rule', hrule', on, hw⟩ := h.exists_rule hw
    exact ⟨rule', on, hw, h.names p q hne.symm rule' hrule' rule hrule⟩

/-- **Each path is as if alone**: it shows what it would show if only its own calls had been
made. -/
theorem Apart.alone (p : Path) (calls : List (Path × Reconciler.Call)) {s : Rig}
    (hs : s.Alike (c.rig p)) : (s.run (callsOn p calls)).Alike ((c.run calls).rig p) := by
  induction calls generalizing c s with
  | nil => exact hs
  | cons call calls ih =>
    obtain ⟨q, call⟩ := call
    by_cases hq : q = p
    · subst hq
      have hserved := hs.serve call
      rw [← rig_serve_self] at hserved
      have hcalls : callsOn q ((q, call) :: calls) = call :: callsOn q calls := by
        simp [callsOn]
      rw [hcalls]
      exact ih (h.serve (q, call)) hserved
    · have hcalls : callsOn p ((q, call) :: calls) = callsOn p calls := by
        simp [callsOn, hq]
      rw [hcalls]
      exact ih (h.serve (q, call)) (hs.trans (h.serve_of_ne (Ne.symm hq) call))

omit h in
theorem layout_run (c : Codec) (calls : List (Path × Reconciler.Call)) :
    (c.run calls).mixer.layout = c.mixer.layout := by
  induction calls generalizing c with
  | nil => rfl
  | cons call calls ih => rw [run_cons, ih, layout_serve]

/-- A control that no rule stands for is left alone. -/
theorem Apart.valueAt_run {id : ControlId}
    (hid : ∀ p, ∀ rule ∈ (c.rig p).rules, c.mixer.find? rule.name ≠ some id) (slot : Nat)
    (calls : List (Path × Reconciler.Call)) :
    (c.run calls).mixer.valueAt id slot = c.mixer.valueAt id slot := by
  induction calls generalizing c with
  | nil => rfl
  | cons call calls ih =>
    obtain ⟨p, call⟩ := call
    have hid' : ∀ q, ∀ rule ∈ ((c.serve (p, call)).rig q).rules,
        (c.serve (p, call)).mixer.find? rule.name ≠ some id := by
      intro q rule hrule
      rw [rules_serve] at hrule
      rw [Mixer.find?_congr (layout_serve c p call)]
      exact hid q rule hrule
    rw [run_cons, ih (h.serve (p, call)) hid', mixer_serve, Rig.serve_eq]
    refine Mixer.valueAt_perform_of_forall_ne _ _ fun w hw hslot => ?_
    obtain ⟨rule, hrule, on, hw⟩ := h.exists_rule hw
    obtain ⟨value, hresolve, -⟩ := Mixer.mem_writes.1 hw
    exact hid p rule hrule (hslot.1 ▸ ControlRule.find?_of_resolve hresolve)

/-- What the slots hold, of whatever control, is known by what the two paths show. -/
theorem Apart.controls_eq {calls calls' : List (Path × Reconciler.Call)}
    (halike : ∀ p, ((c.run calls).rig p).Alike ((c.run calls').rig p)) :
    (c.run calls').mixer.controls = (c.run calls).mixer.controls := by
  have hlayout : (c.run calls').mixer.layout = (c.run calls).mixer.layout := by
    rw [layout_run, layout_run]
  refine Mixer.controls_ext hlayout fun id slot => ?_
  by_cases hid : ∃ p, ∃ rule ∈ (c.rig p).rules, c.mixer.find? rule.name = some id
  · obtain ⟨p, rule, hrule, hfind⟩ := hid
    have hfind' : ∀ calls, (c.run calls).mixer.find? rule.name = some id := fun calls =>
      (Mixer.find?_congr (layout_run c calls) _).trans hfind
    have hrule' : rule ∈ ((c.run calls).rig p).rules := by
      rw [(h.alone p calls (.refl _)).rules, Rig.rules_run]
      exact hrule
    have hvalue : (c.run calls').mixer.value? rule.name slot =
        (c.run calls).mixer.value? rule.name slot := (halike p).values rule hrule' slot
    rwa [Mixer.value?_of_find? (hfind' calls'), Mixer.value?_of_find? (hfind' calls)] at hvalue
  · have hid' : ∀ p, ∀ rule ∈ (c.rig p).rules, c.mixer.find? rule.name ≠ some id :=
      fun p rule hrule hfind => hid ⟨p, rule, hrule, hfind⟩
    rw [h.valueAt_run hid', h.valueAt_run hid']

end

end Codec

end HandsetAudio
