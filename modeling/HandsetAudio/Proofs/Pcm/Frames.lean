import HandsetAudio.Pcm.Samples
import Mathlib.Data.List.Basic

/-!
# Cutting samples into frames

Whole frames can be cut anywhere: those of an append are those of its parts, if the first part is
whole, and the first frames of a list are the frames of its first samples. Put together again they
are the samples that they were cut from:

> `wholeFrames_append`, `take_wholeFrames`, `drop_wholeFrames`, `flatten_wholeFrames`.

The `channel` of interleaved samples is what stands at its place in every whole frame
(`channel_eq`).
-/

namespace HandsetAudio

namespace Sample

/-! ## A number of frames -/

section

variable {n : Nat} {samples : List Sample}

theorem frames_add (n i j : Nat) (samples : List Sample) :
    frames n (i + j) samples = frames n i samples ++ frames n j (samples.drop (i * n)) := by
  induction i generalizing samples with
  | zero => rw [Nat.zero_add, Nat.zero_mul, List.drop_zero]; rfl
  | succ i ih =>
    rw [Nat.succ_add, frames, frames, ih, List.drop_drop, List.cons_append, Nat.succ_mul,
      Nat.add_comm n]

/-- What lies behind the frames does not matter to them. -/
theorem frames_append {count : Nat} (h : count * n ≤ samples.length) (more : List Sample) :
    frames n count (samples ++ more) = frames n count samples := by
  induction count generalizing samples with
  | zero => rfl
  | succ count ih =>
    rw [Nat.succ_mul] at h
    have hrest : count * n ≤ (samples.drop n).length := by
      rw [List.length_drop]
      omega
    rw [frames, frames, List.take_append_of_le_length (by omega),
      List.drop_append_of_le_length (by omega), ih hrest]

theorem flatten_frames (n count : Nat) (samples : List Sample) :
    (frames n count samples).flatten = samples.take (count * n) := by
  induction count generalizing samples with
  | zero => rw [Nat.zero_mul, List.take_zero]; rfl
  | succ count ih =>
    rw [frames, List.flatten_cons, ih, Nat.succ_mul, Nat.add_comm, List.take_add]

theorem length_of_mem_frames {count : Nat} (h : count * n ≤ samples.length) {f : List Sample}
    (hf : f ∈ frames n count samples) : f.length = n := by
  induction count generalizing samples with
  | zero => cases hf
  | succ count ih =>
    rw [Nat.succ_mul] at h
    rcases List.mem_cons.1 hf with rfl | hrest
    · rw [List.length_take]
      omega
    · exact ih (by rw [List.length_drop]; omega) hrest

end

/-! ## All whole frames -/

section

variable {n k : Nat} (samples : List Sample)

/-- Whole frames have a sample for each channel. -/
theorem length_of_mem_wholeFrames {samples f : List Sample} (hf : f ∈ wholeFrames n samples) :
    f.length = n :=
  length_of_mem_frames (Nat.div_mul_le_self ..) hf

theorem wholeFrames_nil (n : Nat) : wholeFrames n [] = [] := by
  unfold wholeFrames
  rw [List.length_nil, Nat.zero_div]
  rfl

/-- Behind whole frames the count starts anew. -/
theorem wholeFrames_append (hn : 0 < n) {front : List Sample} (h : front.length = k * n) :
    wholeFrames n (front ++ samples) = wholeFrames n front ++ wholeFrames n samples := by
  have hfront : front.length / n = k := by rw [h, Nat.mul_div_cancel _ hn]
  have hcount : (front ++ samples).length / n = k + samples.length / n := by
    rw [List.length_append, h, Nat.add_comm, Nat.add_mul_div_right _ _ hn, Nat.add_comm]
  unfold wholeFrames
  rw [hcount, hfront, frames_add, frames_append (Nat.le_of_eq h.symm), List.drop_left' h]

/-- The first frames, and the others. -/
theorem wholeFrames_split (hn : 0 < n) {samples : List Sample} (h : k * n ≤ samples.length) :
    wholeFrames n samples =
      wholeFrames n (samples.take (k * n)) ++ wholeFrames n (samples.drop (k * n)) := by
  have hfront : (samples.take (k * n)).length = k * n := List.length_take_of_le h
  rw [← wholeFrames_append _ hn hfront, List.take_append_drop]

theorem length_wholeFrames_take (hn : 0 < n) {samples : List Sample}
    (h : k * n ≤ samples.length) : (wholeFrames n (samples.take (k * n))).length = k := by
  rw [length_wholeFrames, List.length_take_of_le h, Nat.mul_div_cancel _ hn]

theorem take_wholeFrames (hn : 0 < n) (k : Nat) :
    (wholeFrames n samples).take k = wholeFrames n (samples.take (k * n)) := by
  rcases Nat.le_or_le (k * n) samples.length with hfits | hall
  · rw [wholeFrames_split hn hfits, List.take_left' (length_wholeFrames_take hn hfits)]
  · have hcount : (wholeFrames n samples).length ≤ k := by
      rw [length_wholeFrames]
      exact Nat.div_le_of_le_mul (by rwa [Nat.mul_comm] at hall)
    rw [List.take_of_length_le hcount, List.take_of_length_le hall]

theorem drop_wholeFrames (hn : 0 < n) (k : Nat) :
    (wholeFrames n samples).drop k = wholeFrames n (samples.drop (k * n)) := by
  rcases Nat.le_or_le (k * n) samples.length with hfits | hall
  · rw [wholeFrames_split hn hfits, List.drop_left' (length_wholeFrames_take hn hfits)]
  · have hcount : (wholeFrames n samples).length ≤ k := by
      rw [length_wholeFrames]
      exact Nat.div_le_of_le_mul (by rwa [Nat.mul_comm] at hall)
    rw [List.drop_of_length_le hcount, List.drop_of_length_le hall, wholeFrames_nil]

/-- The frames put together are the samples, less those of an incomplete frame at the end. -/
theorem flatten_wholeFrames (n : Nat) :
    (wholeFrames n samples).flatten = samples.take (samples.length / n * n) :=
  flatten_frames ..

end

/-! ## Channels -/

/-- The samples of one channel in the whole frames of `n` interleaved channels. -/
def channel (n i : Nat) (samples : List Sample) : List Sample :=
  (List.range (samples.length / n)).filterMap fun j => samples[j * n + i]?

theorem getElem?_frames {n count j : Nat} (h : j < count) (samples : List Sample) :
    (frames n count samples)[j]? = some ((samples.drop (j * n)).take n) := by
  induction count generalizing j samples with
  | zero => cases h
  | succ count ih =>
    cases j with
    | zero => rw [Nat.zero_mul, List.drop_zero]; rfl
    | succ j =>
      rw [frames, List.getElem?_cons_succ, ih (by omega), List.drop_drop, Nat.succ_mul,
        Nat.add_comm]

theorem wholeFrames_eq_map (n : Nat) (samples : List Sample) : wholeFrames n samples =
    (List.range (samples.length / n)).map fun j => (samples.drop (j * n)).take n := by
  refine List.ext_getElem (by simp) fun j hj _ => ?_
  rw [length_wholeFrames] at hj
  rw [List.getElem_map, List.getElem_range]
  exact (List.getElem?_eq_some_iff.1 (getElem?_frames hj samples)).2

/-- A channel has a sample of each frame. -/
theorem channel_eq {n i : Nat} (hi : i < n) (samples : List Sample) :
    channel n i samples = (wholeFrames n samples).map (·.getD i 0) := by
  rw [channel, wholeFrames_eq_map, List.map_map]
  refine List.filterMap_eq_map_iff_forall_eq_some.2 fun j hj => ?_
  have hframe : j * n + i < samples.length := by
    have hnext : (j + 1) * n ≤ samples.length :=
      Nat.le_trans (Nat.mul_le_mul_right n (List.mem_range.1 hj)) (Nat.div_mul_le_self ..)
    rw [Nat.succ_mul] at hnext
    omega
  rw [Function.comp_apply, List.getD_eq_getElem?_getD,
    List.getElem?_take_of_lt hi, List.getElem?_drop, List.getElem?_eq_getElem hframe,
    Option.getD_some]

/-- Frames that are put together can be cut again. -/
theorem wholeFrames_flatten {n : Nat} (hn : 0 < n) {fs : List (List Sample)}
    (h : ∀ f ∈ fs, f.length = n) : wholeFrames n fs.flatten = fs := by
  induction fs with
  | nil => exact wholeFrames_nil n
  | cons f fs ih =>
    have hf := h f List.mem_cons_self
    have hone : f.length = 1 * n := by rw [hf, Nat.one_mul]
    have hcut : wholeFrames n f = [f] := by
      rw [wholeFrames, hone, Nat.mul_div_cancel _ hn, frames, ← hf, List.take_length]
      rfl
    rw [List.flatten_cons, wholeFrames_append _ hn hone, hcut,
      ih fun g hg => h g (List.mem_cons_of_mem _ hg)]
    rfl

/-- With one channel every sample is a frame. -/
theorem wholeFrames_one (samples : List Sample) : wholeFrames 1 samples = samples.map ([·]) := by
  have hone : ∀ f ∈ samples.map ([·]), f.length = 1 := by
    intro f hf
    obtain ⟨s, -, rfl⟩ := List.mem_map.1 hf
    rfl
  have hwhole := wholeFrames_flatten Nat.one_pos hone
  rwa [← List.flatMap_def, List.flatMap_singleton'] at hwhole

/-! ## Bytes -/

theorem length_ofBytes (bytes : List UInt8) : (ofBytes bytes).length = bytes.length / 2 := by
  induction bytes using ofBytes.induct with
  | case1 low high rest ih =>
    simp only [ofBytes, List.length_cons, ih]
    omega
  | case2 bytes hshort =>
    have hlength : bytes.length < 2 := by
      match bytes with
      | [] => exact Nat.zero_lt_two
      | [_] => exact Nat.one_lt_two
      | low :: high :: rest => exact absurd rfl (hshort low high rest)
    rw [Nat.div_eq_of_lt hlength]
    match bytes with
    | [] => rfl
    | [_] => rfl

end Sample

end HandsetAudio
