import HandsetAudio.Proofs.Resampler.Walk
import Mathlib.Data.List.Sort

/-!
# Whole ratios

A resampler whose rates divide reads at whole positions only, where nothing is blended and nothing
rounded. What comes out are frames that came in, one of every `k`, and where the input was cut into
buffers does not show:

> `Aligned.convert`: a buffer is converted to what it adds to the decimated input.
> `decimates`: so buffers are converted to the decimated input, cut as they may be.

The position is carried from buffer to buffer relative to the last frame. Counted from the first
frame of all it is always a multiple of `k` (`Aligned`), be the buffers shorter than `k`.
-/

namespace HandsetAudio

open Arithmetic

namespace Resampler

/-- One of every `k` frames, in the order in which they come out: the first one as it is, and from
then on each a frame later than it came in. -/
def decimated (k : Nat) (frames : List (List Sample)) : List (List Sample) :=
  ((List.range frames.length).filter (k ∣ ·)).filterMap fun j => frames[j - 1]?

/-- The list with what is appended as buffers are converted, one after the other. -/
def pour (r : Resampler) (out : List Sample) : List (List Sample) → List Sample
  | [] => out
  | buffer :: rest => (r.process buffer out).2.2.pour (r.process buffer out).2.1 rest

/-! ## Whole positions -/

/-- The multiples of `k` in a buffer that begins behind `m` frames; `m + p` is the first. -/
theorem range'_eq_filter {k m p c limit : Nat} (hpk : p < k) (hdvd : k ∣ m + p)
    (hbelow : ∀ i < c, p + k * i < limit) (hend : limit ≤ p + k * c) :
    List.range' p c k = (List.range limit).filter (k ∣ m + ·) := by
  have hk : 0 < k := Nat.zero_lt_of_lt hpk
  refine (List.pairwise_lt_range' k hk).eq_of_mem_iff (List.pairwise_lt_range.filter _) fun q => ?_
  rw [List.mem_range', List.mem_filter, List.mem_range, decide_eq_true_eq]
  constructor
  · rintro ⟨i, hi, rfl⟩
    refine ⟨hbelow i hi, ?_⟩
    rw [← Nat.add_assoc]
    exact Nat.dvd_add hdvd (Nat.dvd_mul_right ..)
  · rintro ⟨hq, hdvd'⟩
    -- two multiples are `k` apart at least, so none lies before `m + p`
    have hpq : p ≤ q := by
      by_contra hless
      have hgap : k ∣ m + p - (m + q) := Nat.dvd_sub hdvd hdvd'
      have hle := Nat.le_of_dvd (by omega) hgap
      omega
    obtain ⟨i, hi⟩ : k ∣ m + q - (m + p) := Nat.dvd_sub hdvd' hdvd
    refine ⟨i, ?_, by omega⟩
    by_contra hbehind
    have hle := Nat.mul_le_mul_left k (not_lt.1 hbehind)
    omega

/-- A whole stride from a whole position leads to whole positions. -/
theorem positions_natCast {k limit : Nat} (hk : 0 < k) (hbig : limit + k ≤ 2 ^ 53) {fuel p : Nat}
    (hfuel : limit ≤ p + fuel) :
    ∃ c, positions k limit fuel p = ((List.range' p c k).map (↑), ((p + k * c : Nat) : Rat)) ∧
      (∀ i < c, p + k * i < limit) ∧ limit ≤ p + k * c := by
  induction fuel generalizing p with
  | zero => exact ⟨0, rfl, fun i hi => absurd hi (Nat.not_lt_zero i), hfuel⟩
  | succ fuel ih =>
    unfold positions
    split
    next hbefore =>
      have hlt : p < limit := by exact_mod_cast hbefore
      have hmove : Rounded.add (p : Rat) k = ((p + k : Nat) : Rat) := by
        rw [Rounded.add, ← Nat.cast_add, nearest_natCast (by omega)]
      obtain ⟨c, hread, hbelow, hend⟩ := ih (by omega : limit ≤ p + k + fuel)
      have hlast : p + k + k * c = p + k * (c + 1) := by rw [Nat.mul_succ]; omega
      rw [hmove, hread, hlast]
      refine ⟨c + 1, by rw [List.range'_succ, List.map_cons], fun i hi => ?_, by omega⟩
      cases i with
      | zero => omega
      | succ i =>
        have hi' := hbelow i (by omega)
        rw [Nat.mul_succ]
        omega
    next hbehind =>
      have hle : limit ≤ p := by exact_mod_cast not_lt.1 hbehind
      exact ⟨0, rfl, fun i hi => absurd hi (Nat.not_lt_zero i), hle⟩

theorem roundAway_intCast (z : Int) : roundAway z = z := by
  have hhalf : ∀ w : Int, ((1 : Rat) / 2 + w).floor = w := by
    intro w
    have hzero : ((1 : Rat) / 2).floor = 0 := by decide +kernel
    rw [Rat.floor_add_intCast, hzero, Int.zero_add]
  unfold roundAway
  split
  next => rw [sub_eq_add_neg, ← Int.cast_neg, hhalf, Int.neg_neg]
  next => rw [add_comm, hhalf]

theorem quantize_toInt (a : Sample) : quantize a.toInt = a := by
  have hlow := a.le_toInt
  have hhigh := a.toInt_lt
  have hlimits : max (-32768) (min 32767 a.toInt) = a.toInt := by omega
  rw [quantize, roundAway_intCast, hlimits, Int16.ofInt_toInt]

/-- At a frame nothing is blended. -/
theorem blend_zero (a b : Sample) : blend 0 a b = a := by
  have hlow := a.le_toInt
  have hhigh := a.toInt_lt
  have hnothing : Rounded.mul (b.toInt - a.toInt) 0 = 0 := by
    rw [Rounded.mul, mul_zero]
    exact nearest_natCast (Nat.zero_le _)
  rw [blend, hnothing, Rounded.add, add_zero, nearest_intCast _ (by show _ ≤ 2 ^ 53; omega),
    quantize_toInt]

/-- At a whole position stands a frame of the buffer. -/
theorem frameAt_natCast {history : List (List Sample)} {n q : Nat}
    (h : ∀ f ∈ history, f.length = n) (hq : q + 1 < history.length) :
    frameAt history.toArray q = history[q] := by
  have hfloor : (q : Rat).floor.toNat = q := by
    rw [← Int.cast_natCast, Rat.floor_intCast, Int.toNat_natCast]
  have hexact : Rounded.sub (q : Rat) q = 0 := by
    rw [Rounded.sub, sub_self]
    exact nearest_natCast (Nat.zero_le _)
  have hsame : history[q].length = history[q + 1].length := by
    rw [h _ (List.getElem_mem _), h _ (List.getElem_mem _)]
  unfold frameAt
  simp only [hfloor, hexact]
  rw [getD_toArray (by omega), getD_toArray hq]
  refine List.ext_getElem (by rw [List.length_zipWith, ← hsame, Nat.min_self]) fun j _ _ => ?_
  rw [List.getElem_zipWith, blend_zero]

/-! ## Cutting -/

section

variable {k : Nat}

/-- What a buffer adds to the decimated input. -/
theorem decimated_append (history frames : List (List Sample)) :
    decimated k (history ++ frames) = decimated k history ++
      ((List.range frames.length).filter (k ∣ history.length + ·)).filterMap fun q =>
        (history ++ frames)[history.length + q - 1]? := by
  have hbefore : ∀ j ∈ (List.range history.length).filter (k ∣ ·),
      (history ++ frames)[j - 1]? = history[j - 1]? := by
    intro j hj
    have hlt := List.mem_range.1 (List.mem_filter.1 hj).1
    exact List.getElem?_append_left (by omega)
  unfold decimated
  rw [List.length_append, List.range_add, List.filter_append, List.filterMap_append,
    List.filterMap_congr hbefore, List.filter_map, List.filterMap_map]
  rfl

/-- A frame later than the buffer has it, all frames stand in what is read. -/
theorem getElem?_append_pred {history rest : List (List Sample)} {first : List Sample} {q : Nat}
    (hq : q < (history.getLast?.getD first :: first :: rest).length) :
    (history ++ first :: rest)[history.length + q - 1]? =
      some (history.getLast?.getD first :: first :: rest)[q] := by
  cases q with
  | zero =>
    rcases List.eq_nil_or_concat history with rfl | ⟨front, last, rfl⟩
    · rfl
    · rw [List.length_concat]
      simp
  | succ q =>
    show (history ++ first :: rest)[history.length + q]? = _
    rw [List.getElem?_append_right (Nat.le_add_right ..), Nat.add_sub_cancel_left]
    exact List.getElem?_eq_getElem _

theorem filterMap_getElem?_range {α : Type} (as : List α) (n : Nat) :
    (List.range n).filterMap (as[·]?) = as.take n := by
  induction n with
  | zero => rfl
  | succ n ih =>
    rw [List.range_succ, List.filterMap_append, ih, List.take_add_one]
    rfl

/-- One of one: all but the last, behind the first. -/
theorem decimated_one (frames : List (List Sample)) :
    decimated 1 frames = frames.take 1 ++ frames.dropLast := by
  have hall : (List.range frames.length).filter (1 ∣ ·) = List.range frames.length :=
    List.filter_eq_self.2 fun j _ => decide_eq_true (Nat.one_dvd j)
  unfold decimated
  rw [hall]
  cases frames with
  | nil => rfl
  | cons first rest =>
    rw [List.length_cons, List.range_succ_eq_map, List.filterMap_cons, List.filterMap_map]
    show first :: (List.range rest.length).filterMap ((first :: rest)[·]?) = _
    rw [filterMap_getElem?_range, List.dropLast_eq_take]
    rfl

/-- The read position is at a multiple of `k`, counted from the first frame of all that came in. -/
structure Aligned (k : Nat) (history : List (List Sample)) (r : Resampler) : Prop where
  stride_eq : r.stride = k
  phase_eq : ∃ p < k, r.phase = (p : Nat) ∧ k ∣ history.length + p
  carried_eq : r.carried = history.getLast?
  whole : ∀ f ∈ history, f.length = r.channels

theorem aligned_new {outRate : Nat} (hk : 0 < k) (hout : 0 < outRate) (hbig : k ≤ 2 ^ 53)
    (channels : Nat) : Aligned k [] (new (k * outRate) outRate channels) where
  stride_eq := by
    have hpos : (outRate : Rat) ≠ 0 := by exact_mod_cast hout.ne'
    have hmax : (max outRate 1 : Nat) = outRate := by omega
    show nearest ((k * outRate : Nat) / (max outRate 1 : Nat)) = k
    rw [hmax, Nat.cast_mul, mul_div_cancel_right₀ _ hpos, nearest_natCast hbig]
  phase_eq := ⟨0, hk, rfl, Nat.dvd_zero k⟩
  carried_eq := rfl
  whole f hf := nomatch hf

variable {r : Resampler} {history frames : List (List Sample)}

theorem Aligned.carried_whole (h : Aligned k history r) : r.Whole := by
  intro f hf
  rw [h.carried_eq] at hf
  exact h.whole f (List.mem_of_getLast? hf)

/-- In a buffer the multiples of `k` are read, and the position goes on to the next one. -/
theorem Aligned.reads (h : Aligned k history r) {n : Nat} (hbig : n + k ≤ 2 ^ 53) :
    ∃ p < k, k ∣ history.length + n + p ∧
      r.reads n = (((List.range n).filter (k ∣ history.length + ·)).map (↑),
        ((n + p : Nat) : Rat)) := by
  obtain ⟨p, hpk, hphase, hdvd⟩ := h.phase_eq
  have hfuel : n ≤ p + r.stepBound n := by
    have hmany := Nat.le_mul_of_pos_right (2 * n) (Nat.lt_of_lt_of_le Nat.one_pos
      (Nat.le_max_right r.outRate 1))
    rw [stepBound]
    omega
  obtain ⟨c, hread, hbelow, hend⟩ := positions_natCast (Nat.zero_lt_of_lt hpk) hbig hfuel
  obtain ⟨p', hp'⟩ := Nat.le.dest hend
  refine ⟨p', ?_, ?_, ?_⟩
  · cases c with
    | zero => omega
    | succ c =>
      have hlast := hbelow c (Nat.lt_succ_self c)
      rw [Nat.mul_succ] at hp'
      omega
  · rw [Nat.add_assoc, hp', ← Nat.add_assoc]
    exact Nat.dvd_add hdvd (Nat.dvd_mul_right ..)
  · rw [Resampler.reads, h.stride_eq, hphase, hread, range'_eq_filter hpk hdvd hbelow hend, hp']

/-- **A buffer** is converted to what it adds to the decimated input. -/
theorem Aligned.convert (h : Aligned k history r) (hframes : ∀ f ∈ frames, f.length = r.channels)
    (hbig : frames.length + k ≤ 2 ^ 53) :
    decimated k (history ++ frames) = decimated k history ++ (r.convert frames).1 ∧
      Aligned k (history ++ frames) (r.convert frames).2 := by
  cases frames with
  | nil =>
    rw [List.append_nil]
    exact ⟨(List.append_nil _).symm, h⟩
  | cons first rest =>
    obtain ⟨p, hpk, hdvd, hread⟩ := h.reads hbig
    rw [convert_cons, hread]
    refine ⟨?_, h.stride_eq, ⟨p, hpk, ?_, ?_⟩, ?_, ?_⟩
    · -- the same positions on both sides, so what stands at one of them is left to compare
      rw [decimated_append, List.map_map, h.carried_eq, ← List.filterMap_eq_map]
      refine congrArg _ (List.filterMap_congr fun q hq => ?_)
      have hlt := List.mem_range.1 (List.mem_filter.1 hq).1
      rw [getElem?_append_pred (Nat.lt_succ_of_lt hlt)]
      refine congrArg some (frameAt_natCast (n := r.channels) ?_ (Nat.succ_lt_succ hlt)).symm
      rw [← h.carried_eq]
      exact fun f hf => h.carried_whole.length_of_mem hframes hf
    · show Rounded.sub _ _ = _
      rw [Rounded.sub, ← Nat.cast_sub (Nat.le_add_right ..), Nat.add_sub_cancel_left,
        nearest_natCast (by omega)]
    · rwa [List.length_append]
    · exact (List.getLast?_append_of_ne_nil _ (List.cons_ne_nil first rest)).symm
    · intro f hf
      exact (List.mem_append.1 hf).elim (h.whole f) (hframes f)

/-- Buffers add to the decimated input one after the other. -/
theorem Aligned.pour (h : Aligned k history r) {cut : List (List (List Sample))}
    (hframes : ∀ f ∈ cut.flatten, f.length = r.channels)
    (hbig : cut.flatten.length + k ≤ 2 ^ 53) (hn : 0 < r.channels) (out : List Sample) :
    r.pour (out ++ (decimated k history).flatten) (cut.map List.flatten) =
      out ++ (decimated k (history ++ cut.flatten)).flatten := by
  induction cut generalizing history r with
  | nil =>
    rw [List.flatten_nil, List.append_nil]
    rfl
  | cons frames cut ih =>
    rw [List.flatten_cons] at hframes hbig ⊢
    rw [List.length_append] at hbig
    have hfirst : ∀ f ∈ frames, f.length = r.channels :=
      fun f hf => hframes f (List.mem_append_left _ hf)
    obtain ⟨hadds, hnext⟩ := h.convert hfirst (by omega)
    have hlater := ih hnext (fun f hf => by
      rw [channels_convert]
      exact hframes f (List.mem_append_right _ hf)) (by omega) (by rwa [channels_convert])
    rw [hadds, List.flatten_append, ← List.append_assoc, List.append_assoc history] at hlater
    rw [List.map_cons, Resampler.pour, process_eq, Sample.wholeFrames_flatten hn hfirst]
    exact hlater

end

/-- **Whole ratios decimate.** A resampler that is new, or was reset after whatever uses, and that
takes `k` frames in for one that goes out: what it appends is one of every `k` frames, with nothing
blended, and the same however the frames were cut into buffers, empty ones among them. With equal
rates that is the input, later by a frame. -/
theorem decimates {k outRate : Nat} (hk : 0 < k) (hout : 0 < outRate) (hrate : k * outRate < 2 ^ 32)
    {channels : Nat} {r : Resampler}
    (hr : r = new (k * outRate) outRate channels ∨
      ∃ earlier, r = ((new (k * outRate) outRate channels).used earlier).reset)
    {frames : List (List Sample)} (hframes : ∀ f ∈ frames, f.length = max channels 1)
    (hlength : frames.length < 2 ^ 52) {cut : List (List (List Sample))}
    (hcut : cut.flatten = frames) (out : List Sample) :
    r.pour out (cut.map List.flatten) = out ++ (decimated k frames).flatten ∧
      (k = 1 →
        r.pour out (cut.map List.flatten) = out ++ (frames.take 1 ++ frames.dropLast).flatten) := by
  have hfirst : r = new (k * outRate) outRate channels := by
    rcases hr with rfl | ⟨earlier, rfl⟩
    · rfl
    · exact reset_used ..
  have hbig : k < 2 ^ 32 := Nat.lt_of_le_of_lt (Nat.le_mul_of_pos_right k hout) hrate
  have hnew : Aligned k [] r := by
    rw [hfirst]
    exact aligned_new hk hout (by omega) channels
  have hchannels : r.channels = max channels 1 := by
    rw [hfirst]
    rfl
  have hall : r.pour out (cut.map List.flatten) = out ++ (decimated k frames).flatten := by
    have hnothing : out ++ (decimated k []).flatten = out := List.append_nil out
    have hwhole : ∀ f ∈ cut.flatten, f.length = r.channels := by rwa [hcut, hchannels]
    have hpour := hnew.pour hwhole (by rw [hcut]; omega) (by omega) out
    rwa [hcut, hnothing] at hpour
  refine ⟨hall, ?_⟩
  rintro rfl
  rw [hall, decimated_one]

/-- Two channels at half of their rate, after uses and a reset: of five frames, in buffers of none,
one, one and three, the first, the second and the fourth come out. With equal rates they come out
later by a frame. -/
theorem decimates_after_reset :
    let frames : List (List Sample) := [[1, 2], [3, 4], [5, 6], [7, 8], [9, 10]]
    let cut : List (List (List Sample)) := [[], [[1, 2]], [[3, 4]], [[5, 6], [7, 8], [9, 10]]]
    let earlier : List Use := [.process [1, 2, 3] [], .reset, .process [4, 5] []]
    (∀ f ∈ frames, f.length = max 2 1) ∧ frames.length < 2 ^ 52 ∧ cut.flatten = frames ∧
      (((new 44100 22050 2).used earlier).reset.pour [0] (cut.map List.flatten) =
        [0, 1, 2, 3, 4, 7, 8]) ∧
      (new 8000 8000 2).pour [0] (cut.map List.flatten) = [0, 1, 2, 1, 2, 3, 4, 5, 6, 7, 8] := by
  intro frames cut earlier
  have hframes : ∀ f ∈ frames, f.length = max 2 1 := by decide
  have hlength : frames.length < 2 ^ 52 := by decide
  have hcut : cut.flatten = frames := rfl
  have hhalf : (decimated 2 frames).flatten = [1, 2, 3, 4, 7, 8] := by decide
  have hdecimated := (decimates (k := 2) (by decide) (by decide : 0 < 22050) (by decide)
    (.inr ⟨earlier, rfl⟩) hframes hlength hcut [0]).1
  have hdelayed := (decimates (k := 1) (by decide) (by decide : 0 < 8000) (by decide)
    (.inl rfl) hframes hlength hcut [0]).2 rfl
  rw [hhalf] at hdecimated
  exact ⟨hframes, hlength, hcut, hdecimated, hdelayed⟩

end Resampler

end HandsetAudio
