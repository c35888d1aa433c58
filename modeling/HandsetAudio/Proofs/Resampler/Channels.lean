import HandsetAudio.Proofs.Resampler.Walk

/-!
# Channels are converted on their own

Which positions are read does not depend on what the samples are, and a frame that comes out has
in each channel what two frames have in that channel. So each channel goes through a resampler as
if there were no other:

> `process_channel`: one channel of a resampler converts one channel of the samples to one channel
> of what the resampler makes of them, and is one channel of the resampler afterwards.
> `channels_apart`: so it is along any uses, and all calls come to an end.
-/

namespace HandsetAudio

open Arithmetic

namespace Resampler

/-- One sample of a frame, as a frame. -/
def pick (i : Nat) (f : List Sample) : List Sample := [f.getD i 0]

/-- One channel of a resampler. -/
def channel (r : Resampler) (i : Nat) : Resampler :=
  { r with channels := 1, carried := r.carried.map (pick i) }

/-! ## One call -/

section

variable {i n : Nat}

/-- Between two frames each channel is blended on its own. -/
theorem frameAt_pick (hi : i < n) {history : List (List Sample)}
    (h : ∀ f ∈ history, f.length = n) {p : Rat} (hp : p.floor.toNat + 1 < history.length) :
    frameAt (history.map (pick i)).toArray p = pick i (frameAt history.toArray p) := by
  have hlength : (history.map (pick i)).length = history.length := List.length_map ..
  unfold frameAt
  simp only
  rw [getD_toArray (by omega), getD_toArray (by omega), getD_toArray (by omega), getD_toArray hp,
    List.getElem_map, List.getElem_map]
  have hfirst := h _ (List.getElem_mem (Nat.lt_of_succ_lt hp))
  have hsecond := h _ (List.getElem_mem hp)
  generalize history[p.floor.toNat] = a at hfirst ⊢
  generalize history[p.floor.toNat + 1] = b at hsecond ⊢
  simp [pick, List.getD_eq_getElem?_getD, hfirst, hsecond, hi]

variable {r : Resampler}

theorem convert_channel (h : r.Whole) (hi : i < r.channels) {frames : List (List Sample)}
    (hframes : ∀ f ∈ frames, f.length = r.channels) :
    (r.channel i).convert (frames.map (pick i)) =
      ((r.convert frames).1.map (pick i), (r.convert frames).2.channel i) := by
  cases frames with
  | nil => rfl
  | cons first rest =>
    have hlength : (pick i first :: rest.map (pick i)).length = (first :: rest).length := by
      rw [← List.map_cons, List.length_map]
    have hhistory : (r.channel i).carried.getD (pick i first) :: pick i first :: rest.map (pick i) =
        (r.carried.getD first :: first :: rest).map (pick i) := by
      rw [List.map_cons, List.map_cons]
      exact congrArg (· :: _) (Option.getD_map (pick i) first r.carried)
    have hlast : (pick i first :: rest.map (pick i)).getLast? =
        (first :: rest).getLast?.map (pick i) := by
      rw [← List.map_cons, List.getLast?_map]
    rw [List.map_cons, convert_cons, convert_cons, hlength, hhistory, hlast, List.map_map]
    refine Prod.ext (List.map_congr_left fun p hp => ?_) rfl
    refine frameAt_pick hi (fun f hf => h.length_of_mem hframes hf) ?_
    exact Nat.succ_lt_succ (floor_lt_of_mem_reads (Nat.succ_pos rest.length) hp)

/-- **One channel** is converted as if it were alone. -/
theorem process_channel (h : r.Whole) (hi : i < r.channels) (samples out out' : List Sample) :
    ∃ added, (r.process samples out).2.1 = out ++ added ∧
      (r.channel i).process (Sample.channel r.channels i samples) out' =
        ((r.process samples out).1, out' ++ Sample.channel r.channels i added,
          (r.process samples out).2.2.channel i) := by
  set frames := Sample.wholeFrames r.channels samples
  have hwhole : ∀ f ∈ frames, f.length = r.channels :=
    fun f hf => Sample.length_of_mem_wholeFrames hf
  have hpicked : ∀ fs : List (List Sample), (fs.map (pick i)).flatten = fs.map (·.getD i 0) := by
    intro fs
    rw [← List.flatMap_def]
    exact List.map_eq_flatMap.symm
  -- a channel that is cut into frames is what is picked of the frames
  have hcut : Sample.wholeFrames (r.channel i).channels (Sample.channel r.channels i samples) =
      frames.map (pick i) := by
    show Sample.wholeFrames 1 _ = _
    rw [Sample.wholeFrames_one, Sample.channel_eq hi, List.map_map]
    rfl
  have hadded : Sample.channel r.channels i (r.convert frames).1.flatten =
      ((r.convert frames).1.map (pick i)).flatten := by
    rw [Sample.channel_eq hi, Sample.wholeFrames_flatten (Nat.zero_lt_of_lt hi)
      fun f hf => length_of_mem_convert h hwhole hf, hpicked]
  refine ⟨(r.convert frames).1.flatten, rfl, ?_⟩
  rw [process_eq, process_eq, hcut, convert_channel h hi hwhole, hadded, List.length_map]

end

/-! ## The positions of another resampler -/

/-- The two resamplers have the same rates and the same position. -/
structure Paced (r s : Resampler) : Prop where
  inRate_eq : s.inRate = r.inRate
  outRate_eq : s.outRate = r.outRate
  phase_eq : s.phase = r.phase

section

variable {r s : Resampler}

theorem Paced.reads_eq (h : Paced r s) (n : Nat) : s.reads n = r.reads n := by
  unfold reads stepBound stride
  rw [h.inRate_eq, h.outRate_eq, h.phase_eq]

/-- Resamplers of one pace that are fed the same number of frames give the same number of frames,
and stay so. -/
theorem Paced.process (h : Paced r s) {samples samples' : List Sample}
    (hframes : samples'.length / s.channels = samples.length / r.channels)
    (out out' : List Sample) :
    (s.process samples' out').1 = (r.process samples out).1 ∧
      Paced (r.process samples out).2.2 (s.process samples' out').2.2 := by
  have hlength : (Sample.wholeFrames s.channels samples').length =
      (Sample.wholeFrames r.channels samples).length := by
    rw [Sample.length_wholeFrames, Sample.length_wholeFrames, hframes]
  rw [process_eq, process_eq]
  rcases hr : Sample.wholeFrames r.channels samples with _ | ⟨first, rest⟩ <;>
    rcases hs : Sample.wholeFrames s.channels samples' with _ | ⟨first', rest'⟩ <;>
    rw [hr, hs] at hlength
  · exact ⟨rfl, h⟩
  · cases hlength
  · cases hlength
  · rw [convert_cons, convert_cons, hlength, h.reads_eq]
    exact ⟨by rw [List.length_map, List.length_map], h.inRate_eq, h.outRate_eq, rfl⟩

/-! ## Runs -/

/-- A use of one resampler and a use of another, on samples that are related. -/
inductive Use.Like (R : List Sample → List Sample → Prop) : Use → Use → Prop where
  | reset : Use.Like R .reset .reset
  | process {samples samples' : List Sample} (h : R samples samples') (out out' : List Sample) :
    Use.Like R (.process samples out) (.process samples' out')

/-- What resets keep, and calls on related samples, is kept by two resamplers that are used
alike. -/
theorem lockstep {R : List Sample → List Sample → Prop} {P : Resampler → Resampler → Prop}
    (hreset : ∀ {r s}, P r s → P r.reset s.reset)
    (hprocess : ∀ {r s samples samples'}, P r s → R samples samples' → ∀ out out',
      P (r.process samples out).2.2 (s.process samples' out').2.2)
    {uses uses' : List Use} (hlike : List.Forall₂ (Use.Like R) uses uses') (h : P r s) :
    P (r.used uses) (s.used uses') := by
  induction hlike generalizing r s with
  | nil => exact h
  | cons hu _ ih =>
    cases hu with
    | reset => exact ih (hreset h)
    | process hR out out' => exact ih (hprocess h hR out out')

theorem Paced.used {n : Nat} (h : Paced r s) (hr : r.channels = n) (hs : s.channels = 1)
    {uses uses' : List Use}
    (hlike : List.Forall₂ (Use.Like fun a b => b.length = a.length / n) uses uses') :
    Paced (r.used uses) (s.used uses') := by
  refine (lockstep (P := fun r s => Paced r s ∧ r.channels = n ∧ s.channels = 1) ?_ ?_ hlike
    ⟨h, hr, hs⟩).1
  · rintro r s ⟨hpaced, hchannels⟩
    exact ⟨⟨hpaced.inRate_eq, hpaced.outRate_eq, rfl⟩, hchannels⟩
  · rintro r s samples samples' ⟨hpaced, hr, hs⟩ hlength out out'
    refine ⟨(hpaced.process ?_ out out').2, ?_, ?_⟩
    · rw [hs, hr, hlength, Nat.div_one]
    · rw [channels_process, hr]
    · rw [channels_process, hs]

/-- Along alike uses one channel stays one channel. -/
theorem channel_used {i n : Nat} (hi : i < n) (hr : r.channels = n) (h : r.Whole)
    {uses uses' : List Use}
    (hlike : List.Forall₂ (Use.Like fun a b => b = Sample.channel n i a) uses uses') :
    (r.channel i).used uses' = (r.used uses).channel i := by
  refine (lockstep (P := fun r s => s = r.channel i ∧ r.channels = n ∧ r.Whole) ?_ ?_ hlike
    ⟨rfl, hr, h⟩).1
  · rintro r _ ⟨rfl, hchannels, -⟩
    exact ⟨rfl, hchannels, fun f hf => nomatch hf⟩
  · rintro r _ samples _ ⟨rfl, rfl, hwhole⟩ rfl out out'
    obtain ⟨added, -, halone⟩ := process_channel hwhole hi samples out out'
    rw [halone]
    exact ⟨rfl, channels_process .., hwhole.process out⟩

end

/-- A call gives a frame for each position that is read. -/
theorem fst_process {r : Resampler} (h : r.Ready) (samples out : List Sample) :
    (r.process samples out).1 = (r.reads (samples.length / r.channels)).1.length := by
  have hlength := Sample.length_wholeFrames r.channels samples
  rw [process_eq, ← hlength]
  cases Sample.wholeFrames r.channels samples with
  | nil =>
    have hnone : ¬r.phase < (0 : Nat) := not_lt.2 (by exact_mod_cast h.phase_nonneg)
    show 0 = (positions r.stride 0 (r.stepBound 0) r.phase).1.length
    rw [stepBound, positions, if_neg hnone]
    rfl
  | cons first rest => rw [convert_cons, List.length_map]

/-- **Channels are converted on their own.** However a resampler was used, on buffers of less than
`2 ^ 20` frames that may end within a frame: its call comes to an end, and appends a whole frame
for each position of the walk to what was there. A resampler of one channel with the same rates
gives the same number of frames if it is fed as many, whatever they are. If it is fed one of the
channels, it gives that channel of what the resampler gives. -/
theorem channels_apart {inRate outRate n : Nat} (hin : 0 < inRate) (hout : outRate < 2 ^ 32)
    (hn : 0 < n) {uses : List Use} (huses : ∀ u ∈ uses, u.Short n) {samples : List Sample}
    (hshort : samples.length / n < 2 ^ 20) (out : List Sample) :
    let r := (new inRate outRate n).used uses
    let alone := (new inRate outRate 1).used
    ∃ read last added,
      Walk r.stride (samples.length / n) r.phase read last ∧
      (r.process samples out).1 = read.length ∧
      (r.process samples out).2.1 = out ++ added ∧ added.length = read.length * n ∧
      (∀ uses' samples' out',
        List.Forall₂ (Use.Like fun a b => b.length = a.length / n) uses uses' →
        samples'.length = samples.length / n →
        ((alone uses').process samples' out').1 = read.length) ∧
      ∀ i < n, ∀ uses' out',
        List.Forall₂ (Use.Like fun a b => b = Sample.channel n i a) uses uses' →
        ((alone uses').process (Sample.channel n i samples) out').2.1 =
          out' ++ Sample.channel n i added := by
  intro r alone
  have hfirst : (new inRate outRate n).channels = n := by
    show max n 1 = n
    omega
  have hchannels : r.channels = n := (channels_used ..).trans hfirst
  have hready : r.Ready := (ready_new ..).used hin hout fun u hu => by
    rw [hfirst]
    exact huses u hu
  have hrate : r.inRate = inRate := inRate_used ..
  have hrate' : r.outRate = outRate := outRate_used ..
  have hwalk := walk_reads (hrate ▸ hin) (hrate' ▸ hout) hready.phase_nonneg hshort
  have hcount := fst_process hready samples out
  have hlength : (r.process samples out).2.1.length = _ := length_process out hready.carried
  obtain ⟨added, hadded⟩ : ∃ added, (r.process samples out).2.1 = out ++ added := ⟨_, rfl⟩
  rw [hchannels] at hcount
  rw [hadded, List.length_append, hcount, hchannels] at hlength
  refine ⟨_, _, added, hwalk, hcount, hadded, Nat.add_left_cancel hlength, ?_, ?_⟩
  · intro uses' samples' out' hlike hsame
    have hnew : Paced (new inRate outRate n) (new inRate outRate 1) := ⟨rfl, rfl, rfl⟩
    have hpaced : Paced r (alone uses') := hnew.used hfirst rfl hlike
    have hone : (alone uses').channels = 1 := channels_used ..
    refine ((hpaced.process ?_ out out').1).trans hcount
    rw [hone, hchannels, Nat.div_one, hsame]
  · intro i hi uses' out' hlike
    -- what was used for one channel only is one channel of the other
    have halone : alone uses' = r.channel i := channel_used hi hfirst (ready_new ..).carried hlike
    obtain ⟨added', hadded', hprocess⟩ :=
      process_channel hready.carried (hchannels.symm ▸ hi) samples out out'
    obtain rfl := List.append_cancel_left (hadded.symm.trans hadded')
    rw [hchannels] at hprocess
    rw [halone, hprocess]

/-- Two channels at two thirds of their rate, after a buffer that ends within a frame, a reset and
another buffer: seven samples more are three frames, and give two. -/
theorem channels_apart_after_reset :
    let uses : List Use := [.process [1, 2, 3, 4, 5] [], .reset, .process [10, 20, 30, 40] []]
    let second : List Use := [.process [2, 4] [], .reset, .process [20, 40] []]
    let samples : List Sample := [50, 60, 70, 80, 90, 100, 110]
    let r := (new 3 2 2).used uses
    (∀ u ∈ uses, u.Short 2) ∧
      List.Forall₂ (Use.Like fun a b => b = Sample.channel 2 1 a) uses second ∧
      samples.length / 2 < 2 ^ 20 ∧ (r.process samples [7]).2.1 = [7, 50, 60, 80, 90] ∧
      (((new 3 2 1).used second).process [60, 80, 100] [9]).2.1 = [9, 60, 90] := by
  intro uses second samples r
  have huses : ∀ u ∈ uses, u.Short 2 := by
    intro u hu
    simp only [uses, List.mem_cons, List.not_mem_nil, or_false] at hu
    rcases hu with rfl | rfl | rfl
    · exact (by decide : 5 / 2 < 2 ^ 20)
    · trivial
    · exact (by decide : 4 / 2 < 2 ^ 20)
  have hlike : List.Forall₂ (Use.Like fun a b => b = Sample.channel 2 1 a) uses second :=
    .cons (.process (by decide) [] []) (.cons .reset (.cons (.process (by decide) [] []) .nil))
  have hshort : samples.length / 2 < 2 ^ 20 := by decide
  have hboth : (r.process samples [7]).2.1 = [7, 50, 60, 80, 90] := by decide +kernel
  obtain ⟨read, last, added, -, -, hadded, -, -, hchannel⟩ :=
    channels_apart (by decide : 0 < 3) (by decide : 2 < 2 ^ 32) (by decide : 0 < 2) huses hshort [7]
  obtain rfl : [50, 60, 80, 90] = added := (List.cons.inj (hboth.symm.trans hadded)).2
  have halone := hchannel 1 (by decide) second [9] hlike
  have hsecond : Sample.channel 2 1 samples = [60, 80, 100] := by decide
  have hadded' : Sample.channel 2 1 [50, 60, 80, 90] = [60, 90] := by decide
  rw [hsecond, hadded'] at halone
  exact ⟨huses, hlike, hshort, hboth, halone⟩

end Resampler

end HandsetAudio
