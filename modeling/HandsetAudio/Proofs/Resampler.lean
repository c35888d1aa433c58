import HandsetAudio.Proofs.Arithmetic.Rounding
import HandsetAudio.Proofs.Pcm.Frames
import HandsetAudio.Resampler

/-!
# What a resampler makes of a buffer

A resampler whose read position moves by at most `k` frames at once (`Steady`) stays so, and its
position is never more than `k` frames into the next buffer. A buffer of more frames than that
therefore yields at least one frame:

> `Steady.process`, `process_pos`.

Every frame that comes out has a sample for each channel (`length_process`).
-/

namespace HandsetAudio

open Arithmetic

namespace Resampler

/-- The carried frame has a sample for each channel. -/
def Whole (r : Resampler) : Prop := ∀ f ∈ r.carried, f.length = r.channels

/-- The read position moves by at most `k` frames at once and is at most `k` frames into the next
buffer; the carried frame is whole. -/
structure Steady (r : Resampler) (k : Nat) : Prop where
  channels_pos : 0 < r.channels
  stride_le : r.stride ≤ k
  phase_le : r.phase ≤ k
  carried : r.Whole

/-- A new resampler moves by the ratio of the rates. -/
theorem steady_new {inRate outRate k : Nat} (channels : Nat) (hout : 0 < outRate)
    (hratio : inRate ≤ k * outRate) (hk : k < 2 ^ 51) :
    (new inRate outRate channels).Steady k where
  channels_pos := by
    show 0 < max channels 1
    omega
  stride_le := by
    refine nearest_le hk ?_
    have hpos : (0 : Rat) < outRate := by exact_mod_cast hout
    have hmax : (max outRate 1 : Nat) = outRate := by omega
    show (inRate : Rat) / (max outRate 1 : Nat) ≤ k
    rw [hmax, div_le_iff₀ hpos]
    exact_mod_cast hratio
  phase_le := by
    show (0 : Rat) ≤ k
    positivity
  carried f hf := by cases hf

/-! ## Positions -/

section

variable {stride phase : Rat} {limit k fuel : Nat}

theorem positions_lt {p : Rat} (h : p ∈ (positions stride limit fuel phase).1) : p < limit := by
  induction fuel generalizing phase with
  | zero => cases h
  | succ fuel ih =>
    unfold positions at h
    split at h
    next hbefore =>
      rcases List.mem_cons.1 h with rfl | hrest
      · exact hbefore
      · exact ih hrest
    next => cases h

/-- The first position that is not read lies at most one move behind the buffer. -/
theorem last_positions_le (hstride : stride ≤ k) (hk : limit + k < 2 ^ 51)
    (hphase : phase ≤ limit + k) : (positions stride limit fuel phase).2 ≤ limit + k := by
  induction fuel generalizing phase with
  | zero => exact hphase
  | succ fuel ih =>
    unfold positions
    split
    next hbefore =>
      refine ih ?_
      have hsum : phase + stride ≤ (limit + k : Nat) := by
        push_cast
        linarith
      exact_mod_cast nearest_le hk hsum
    next => exact hphase

theorem length_positions_pos (hphase : phase < limit) :
    0 < (positions stride limit (fuel + 1) phase).1.length := by
  unfold positions
  rw [if_pos hphase]
  exact Nat.succ_pos _

end

/-- Between two whole frames lies a whole frame. -/
theorem length_frameAt {history : Array (List Sample)} {n : Nat}
    (h : ∀ f ∈ history, f.length = n) {p : Rat} (hp : p.floor.toNat + 1 < history.size) :
    (frameAt history p).length = n := by
  have hlength : ∀ i, i < history.size → (history.getD i []).length = n := by
    intro i hi
    rw [Array.getD_eq_getD_getElem?, Array.getElem?_eq_getElem hi]
    exact h _ (Array.getElem_mem hi)
  unfold frameAt
  simp only
  rw [List.length_zipWith, hlength _ (by omega), hlength _ hp, Nat.min_self]

theorem getD_toArray {history : List (List Sample)} {j : Nat} (hj : j < history.length) :
    history.toArray.getD j [] = history[j] := by
  rw [Array.getD_eq_getD_getElem?, List.getElem?_toArray, List.getElem?_eq_getElem hj]
  rfl

/-! ## Buffers -/

/-- The positions that are read in a buffer of `n` frames, and the first one behind it. -/
def reads (r : Resampler) (n : Nat) : List Rat × Rat := positions r.stride n (r.stepBound n) r.phase

theorem convert_cons (r : Resampler) (first : List Sample) (rest : List (List Sample)) :
    r.convert (first :: rest) =
      ((r.reads (first :: rest).length).1.map
          (frameAt (r.carried.getD first :: first :: rest).toArray),
        { r with
          phase := Rounded.sub (r.reads (first :: rest).length).2 (first :: rest).length
          carried := (first :: rest).getLast? }) := rfl

theorem process_eq (r : Resampler) (samples out : List Sample) :
    r.process samples out =
      ((r.convert (Sample.wholeFrames r.channels samples)).1.length,
        out ++ (r.convert (Sample.wholeFrames r.channels samples)).1.flatten,
        (r.convert (Sample.wholeFrames r.channels samples)).2) := rfl

section

variable {r : Resampler} {k : Nat} {frames : List (List Sample)}

/-- Converting changes neither the rates nor the channels. -/
theorem stride_convert (r : Resampler) (frames : List (List Sample)) :
    (r.convert frames).2.stride = r.stride := by
  cases frames <;> rfl

theorem channels_convert (r : Resampler) (frames : List (List Sample)) :
    (r.convert frames).2.channels = r.channels := by
  cases frames <;> rfl

theorem Whole.convert (h : r.Whole) (hframes : ∀ f ∈ frames, f.length = r.channels) :
    (r.convert frames).2.Whole := by
  intro f hf
  rw [channels_convert]
  cases frames with
  | nil => exact h f hf
  | cons first rest => exact hframes f (List.mem_of_getLast? hf)

theorem Steady.convert (h : r.Steady k) (hframes : ∀ f ∈ frames, f.length = r.channels)
    (hk : frames.length + k < 2 ^ 51) : (r.convert frames).2.Steady k where
  channels_pos := by
    rw [channels_convert]
    exact h.channels_pos
  stride_le := by
    rw [stride_convert]
    exact h.stride_le
  phase_le := by
    cases frames with
    | nil => exact h.phase_le
    | cons first rest =>
      have hphase : r.phase ≤ ((first :: rest).length : Nat) + k := by
        have hpos : (0 : Rat) ≤ ((first :: rest).length : Nat) := by positivity
        linarith [h.phase_le]
      have hlast : (r.reads (first :: rest).length).2 ≤ ((first :: rest).length : Nat) + k :=
        last_positions_le h.stride_le hk hphase
      rw [convert_cons]
      refine nearest_le (by omega) ?_
      linarith
  carried := h.carried.convert hframes

/-- The carried frame and those of the buffer are whole. -/
theorem Whole.length_of_mem (h : r.Whole) {first : List Sample} {rest : List (List Sample)}
    (hframes : ∀ f ∈ first :: rest, f.length = r.channels) {f : List Sample}
    (hf : f ∈ r.carried.getD first :: first :: rest) : f.length = r.channels := by
  rcases List.mem_cons.1 hf with rfl | hmem
  · cases hcarried : r.carried with
    | none => exact hframes first List.mem_cons_self
    | some carried => exact h carried hcarried
  · exact hframes f hmem

/-- A position that is read lies before the end of the buffer, so it is followed by a frame. -/
theorem floor_lt_of_mem_reads {n : Nat} (hn : 0 < n) {p : Rat} (hp : p ∈ (r.reads n).1) :
    p.floor.toNat < n := by
  have hfloor : p.floor < (n : Nat) := by
    rw [Rat.floor_lt_iff]
    exact_mod_cast positions_lt hp
  omega

/-- Every frame that comes out is whole. -/
theorem length_of_mem_convert (h : r.Whole) (hframes : ∀ f ∈ frames, f.length = r.channels)
    {f : List Sample} (hf : f ∈ (r.convert frames).1) : f.length = r.channels := by
  cases frames with
  | nil => cases hf
  | cons first rest =>
    rw [convert_cons] at hf
    obtain ⟨p, hp, rfl⟩ := List.mem_map.1 hf
    refine length_frameAt (fun f hf => h.length_of_mem hframes (List.mem_toArray.1 hf)) ?_
    have hfloor := floor_lt_of_mem_reads (Nat.succ_pos rest.length) hp
    rw [List.size_toArray, List.length_cons]
    exact Nat.succ_lt_succ hfloor

theorem length_convert_pos (h : r.Steady k) (hmore : k < frames.length) :
    0 < (r.convert frames).1.length := by
  cases frames with
  | nil => cases hmore
  | cons first rest =>
    have hphase : r.phase < ((first :: rest).length : Nat) :=
      lt_of_le_of_lt h.phase_le (by exact_mod_cast hmore)
    rw [convert_cons, List.length_map]
    exact length_positions_pos hphase

end

/-! ## Samples -/

section

variable {r : Resampler} {k : Nat} {samples : List Sample} (out : List Sample)

theorem channels_process (r : Resampler) (samples out : List Sample) :
    (r.process samples out).2.2.channels = r.channels := channels_convert ..

theorem Steady.process (h : r.Steady k) (hk : samples.length + k < 2 ^ 51) :
    (r.process samples out).2.2.Steady k := by
  refine h.convert (fun f hf => Sample.length_of_mem_wholeFrames hf) ?_
  rw [Sample.length_wholeFrames]
  have hdiv := Nat.div_le_self samples.length r.channels
  omega

theorem Whole.process (h : r.Whole) : (r.process samples out).2.2.Whole :=
  h.convert fun _ hf => Sample.length_of_mem_wholeFrames hf

/-- As many samples are appended as the frames have that came out. -/
theorem length_process (h : r.Whole) :
    (r.process samples out).2.1.length =
      out.length + (r.process samples out).1 * r.channels := by
  have hwhole : ∀ f ∈ (r.convert (Sample.wholeFrames r.channels samples)).1,
      f.length = r.channels := fun f hf =>
    length_of_mem_convert h (fun f hf => Sample.length_of_mem_wholeFrames hf) hf
  rw [process_eq, List.length_append, List.length_flatten, List.map_congr_left hwhole,
    List.map_const', List.sum_replicate]
  rfl

/-- A buffer of more than `k` frames yields a frame. -/
theorem process_pos (h : r.Steady k) (hmore : k < samples.length / r.channels) :
    0 < (r.process samples out).1 := by
  refine length_convert_pos h ?_
  rw [Sample.length_wholeFrames]
  exact hmore

end

end Resampler

end HandsetAudio
