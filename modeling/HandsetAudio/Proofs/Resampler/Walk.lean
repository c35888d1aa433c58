import HandsetAudio.Proofs.Resampler
import Mathlib.Data.List.Induction
import Mathlib.Tactic.Positivity

/-!
# How the read position moves

In a buffer the position goes on by the stride until it is behind the last frame. `Walk` is that
movement without any bound on the number of its steps:

> `walk_reads`: on buffers of less than `2 ^ 20` frames it comes to an end, and a resampler reads
> the positions of the walk.

The bound is that of double precision. At `2 ^ 20` neighbouring numbers are `2 ^ (-32)` apart, which
is about what the position moves by at the least (`le_add_stride`).
-/

namespace HandsetAudio

open Arithmetic

namespace Resampler

/-! ## Walks -/

/-- From `phase` on the position moves over `read` to `last`, the first that is not below
`limit`. -/
inductive Walk (stride : Rat) (limit : Nat) : Rat → List Rat → Rat → Prop where
  | stop {phase : Rat} (h : limit ≤ phase) : Walk stride limit phase [] phase
  | go {phase last : Rat} {read : List Rat} (h : phase < limit)
    (rest : Walk stride limit (Rounded.add phase stride) read last) :
    Walk stride limit phase (phase :: read) last

section

variable {stride phase last step : Rat} {limit fuel : Nat} {read : List Rat}

theorem Walk.limit_le (h : Walk stride limit phase read last) : limit ≤ last := by
  induction h with
  | stop h => exact h
  | go _ _ ih => exact ih

/-- A position that moves by `step` at least is behind the buffer after enough moves. -/
theorem walk_positions (hstep : 0 ≤ step)
    (hmoves : ∀ p : Rat, 0 ≤ p → p < limit → p + step ≤ Rounded.add p stride)
    (hphase : 0 ≤ phase) (hfuel : limit ≤ phase + fuel * step) :
    Walk stride limit phase (positions stride limit fuel phase).1
      (positions stride limit fuel phase).2 := by
  induction fuel generalizing phase with
  | zero =>
    refine .stop ?_
    rwa [Nat.cast_zero, zero_mul, add_zero] at hfuel
  | succ fuel ih =>
    unfold positions
    split
    next hbefore =>
      -- a unit of fuel pays for one move
      have hmove := hmoves phase hphase hbefore
      refine .go hbefore (ih (by linarith) ?_)
      push_cast at hfuel
      linarith
    next hbehind => exact .stop (not_lt.1 hbehind)

end

/-! ## Moves -/

/-- The stride is the ratio of the rates, but for rounding. -/
theorem le_stride {r : Resampler} (hin : 0 < r.inRate) :
    1 / (max r.outRate 1 : Nat) * (1 - 1 / 2 ^ 53) ≤ r.stride := by
  have hratio : (1 : Rat) / (max r.outRate 1 : Nat) ≤ r.inRate / (max r.outRate 1 : Nat) := by
    have hone : (1 : Rat) ≤ r.inRate := by exact_mod_cast hin
    gcongr
  have hpositive : (0 : Rat) ≤ r.inRate / (max r.outRate 1 : Nat) := by positivity
  have hrounded : _ ≤ r.stride := le_nearest hpositive
  linarith

/-- **The position moves on.** In `2 ^ 20` frames it moves at least by half of the time between two
frames that go out. -/
theorem le_add_stride {r : Resampler} (hin : 0 < r.inRate) (hout : r.outRate < 2 ^ 32) {p : Rat}
    (hp : 0 ≤ p) (hlimit : p < 2 ^ 20) :
    p + 1 / (max r.outRate 1 : Nat) / 2 ≤ Rounded.add p r.stride := by
  have hstride := le_stride hin
  -- half a unit in the last digit of the new position is less than half of the stride
  have hrate : (1 : Rat) ≤ 1 / (max r.outRate 1 : Nat) * (2 ^ 32 - 1) := by
    have hmax : (max r.outRate 1 : Nat) + (1 : Rat) ≤ 2 ^ 32 := by
      exact_mod_cast (by omega : max r.outRate 1 + 1 ≤ 2 ^ 32)
    have hpos : (0 : Rat) < (max r.outRate 1 : Nat) := by positivity
    rw [one_div_mul_eq_div, le_div_iff₀ hpos]
    linarith
  generalize (1 : Rat) / (max r.outRate 1 : Nat) = t at *
  have hrounded : _ ≤ Rounded.add p r.stride := le_nearest (by linarith : 0 ≤ p + r.stride)
  linarith

/-- **A walk ends**, and its positions are the ones that are read. -/
theorem walk_reads {r : Resampler} (hin : 0 < r.inRate) (hout : r.outRate < 2 ^ 32)
    (hphase : 0 ≤ r.phase) {n : Nat} (hn : n < 2 ^ 20) :
    Walk r.stride n r.phase (r.reads n).1 (r.reads n).2 := by
  have hpos : (0 : Rat) < (max r.outRate 1 : Nat) := by positivity
  refine walk_positions (by positivity : 0 ≤ 1 / ((max r.outRate 1 : Nat) : Rat) / 2) ?_ hphase ?_
  · intro p hp hbefore
    have hlimit : p < 2 ^ 20 := lt_trans hbefore (by exact_mod_cast hn)
    exact le_add_stride hin hout hp hlimit
  · have hbound : (r.stepBound n : Rat) * (1 / (max r.outRate 1 : Nat) / 2) =
        n + 1 / (max r.outRate 1 : Nat) / 2 := by
      rw [stepBound]
      push_cast at hpos ⊢
      field_simp
    have hlast : (0 : Rat) ≤ 1 / (max r.outRate 1 : Nat) / 2 := by positivity
    linarith

/-! ## Uses -/

/-- What a resampler can be asked for. -/
inductive Use where
  /-- To forget the carried frame and the position. -/
  | reset
  /-- To convert samples, and to append what comes out to a list. -/
  | process (samples out : List Sample)
  deriving DecidableEq, Repr

/-- The resampler after a use. -/
def use (r : Resampler) : Use → Resampler
  | .reset => r.reset
  | .process samples out => (r.process samples out).2.2

/-- The resampler after several uses. -/
def used (r : Resampler) (uses : List Use) : Resampler := uses.foldl use r

theorem used_concat (r : Resampler) (uses : List Use) (u : Use) :
    r.used (uses ++ [u]) = (r.used uses).use u := List.foldl_concat ..

/-- The use converts less than `2 ^ 20` frames of `n` samples. -/
def Use.Short (n : Nat) : Use → Prop
  | .reset => True
  | .process samples _ => samples.length / n < 2 ^ 20

/-- The position is not behind the carried frame, which has a sample for each channel. -/
structure Ready (r : Resampler) : Prop where
  phase_nonneg : 0 ≤ r.phase
  carried : r.Whole

theorem ready_new (inRate outRate channels : Nat) : (new inRate outRate channels).Ready :=
  ⟨le_refl _, fun _ hf => nomatch hf⟩

/-- Whatever it was used for, a resampler can be reset to what it was at first. -/
theorem reset_used (r : Resampler) (uses : List Use) : (r.used uses).reset = r.reset := by
  have hconvert : ∀ (r : Resampler) (frames : List (List Sample)),
      (r.convert frames).2.reset = r.reset := by
    rintro r (_ | ⟨first, rest⟩) <;> rfl
  induction uses generalizing r with
  | nil => rfl
  | cons u uses ih =>
    rw [used, List.foldl_cons, ← used, ih]
    cases u with
    | reset => rfl
    | process samples out => exact hconvert ..

theorem inRate_used (r : Resampler) (uses : List Use) : (r.used uses).inRate = r.inRate := by
  show (r.used uses).reset.inRate = r.reset.inRate
  rw [reset_used]

theorem outRate_used (r : Resampler) (uses : List Use) : (r.used uses).outRate = r.outRate := by
  show (r.used uses).reset.outRate = r.reset.outRate
  rw [reset_used]

theorem channels_used (r : Resampler) (uses : List Use) :
    (r.used uses).channels = r.channels := by
  show (r.used uses).reset.channels = r.reset.channels
  rw [reset_used]

section

variable {r : Resampler} (hin : 0 < r.inRate) (hout : r.outRate < 2 ^ 32)

include hin hout

theorem Ready.process (h : r.Ready) {samples : List Sample}
    (hshort : samples.length / r.channels < 2 ^ 20) (out : List Sample) :
    (r.process samples out).2.2.Ready := by
  refine ⟨?_, h.carried.process out⟩
  have hlength := Sample.length_wholeFrames r.channels samples
  rw [process_eq]
  cases hframes : Sample.wholeFrames r.channels samples with
  | nil => exact h.phase_nonneg
  | cons first rest =>
    rw [hframes] at hlength
    rw [convert_cons]
    have hend := (walk_reads hin hout h.phase_nonneg (hlength ▸ hshort)).limit_le
    exact nearest_nonneg (by linarith)

theorem Ready.used (h : r.Ready) {uses : List Use} (hshort : ∀ u ∈ uses, u.Short r.channels) :
    (r.used uses).Ready := by
  induction uses using List.reverseRecOn with
  | nil => exact h
  | append_singleton uses u ih =>
    have hready := ih fun u hu => hshort u (List.mem_append_left _ hu)
    have hlast := hshort u (List.mem_append_right _ List.mem_cons_self)
    rw [used_concat]
    cases u with
    | reset => exact ⟨le_refl _, fun _ hf => nomatch hf⟩
    | process samples out =>
      rw [← inRate_used r uses] at hin
      rw [← outRate_used r uses] at hout
      rw [← channels_used r uses] at hlast
      exact hready.process hin hout hlast out

end

end Resampler

end HandsetAudio
