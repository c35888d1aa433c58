import HandsetAudio.Proofs.Pcm.Area
import HandsetAudio.Proofs.Pcm.Frames

/-!
# A ring is a bounded queue

In a valid ring the frames between the two counters are the queue, wherever they lie in the area. As
long as no counter goes around, a push appends what fits, and a pop and a discard take from the
front:

> `toList_push`, `toList_pop`, `toList_discard`.

A ring that is told to copy stretch by stretch, and to fault where a stretch leaves the memory or a
number is divided by zero (`answer?`), does the same. Main statement:

> `refines_queue`: whatever is asked of a new ring whose memory a word can tell, it answers as a
> bounded queue of frames does (`FrameQueue`) and holds what that holds, and no access falls outside
> of its samples.
-/

namespace HandsetAudio

namespace Ring

variable {r : Ring}

/-! ## The queue -/

section

variable (h : r.Valid)

include h

theorem Valid.availableRead_eq : r.availableRead = r.pushed - r.popped := by
  have hle := h.pushed_le
  unfold availableRead
  omega

@[simp] theorem Valid.length_toList : r.toList.length = r.availableRead := by
  unfold toList queued
  rw [Sample.length_wholeFrames, length_load, Nat.mul_div_cancel _ h.channels_pos]

/-- The first samples of the queue are its first frames. -/
theorem Valid.take_toList (n : Nat) :
    r.toList.take n = Sample.wholeFrames r.channels
      (load r.cells (r.popped * r.channels) (min n r.availableRead * r.channels)) := by
  unfold toList queued
  rw [Sample.take_wholeFrames _ h.channels_pos]
  rcases Nat.le_or_le n r.availableRead with hn | hn
  · rw [Nat.min_eq_left hn, take_load (Nat.mul_le_mul_right _ hn)]
  · rw [Nat.min_eq_right hn, List.take_of_length_le]
    rw [length_load]
    exact Nat.mul_le_mul_right _ hn

/-- Behind them are the others. -/
theorem Valid.drop_toList {n : Nat} (hn : n ≤ r.availableRead) :
    r.toList.drop n = Sample.wholeFrames r.channels
      (load r.cells ((r.popped + n) * r.channels) ((r.availableRead - n) * r.channels)) := by
  unfold toList queued
  rw [Sample.drop_wholeFrames _ h.channels_pos, drop_load (Nat.mul_le_mul_right _ hn),
    Nat.add_mul, Nat.sub_mul]

end

/-! ## Push, pop and discard -/

theorem fst_push (h : r.Valid) (samples : List Sample) : (r.push samples).1 =
    min (samples.length / r.channels) (r.capacity - r.toList.length) := by
  rw [h.length_toList]
  rfl

section

variable (h : r.Valid) (samples : List Sample) (hturn : r.popped ≤ r.pushed)
  (hroom : r.pushed + (r.push samples).1 < 2 ^ 64)

include h hturn hroom

/-- What was queued, and behind it the samples that are pushed. -/
theorem queued_push : (r.push samples).2.queued =
    r.queued ++ samples.take ((r.push samples).1 * r.channels) := by
  have hread := h.availableRead_eq
  have hpushed := h.pushed_le
  have hread' := (h.push samples).availableRead_eq
  set count := (r.push samples).1 with hcount
  have hfree : count ≤ r.capacity - r.availableRead := Nat.min_le_right ..
  have hwhole : count * r.channels ≤ samples.length := min_div_mul_le ..
  have htaken : (samples.take (count * r.channels)).length = count * r.channels :=
    List.length_take_of_le hwhole
  have havailable : (r.push samples).2.availableRead = r.availableRead + count := by
    rw [hread', hread]
    show word (r.pushed + count) - r.popped = r.pushed - r.popped + count
    rw [word_of_lt hroom]
    omega
  -- the new samples begin where the queued ones end, and end within a round of where those begin
  have hend : r.popped * r.channels + r.availableRead * r.channels = r.pushed * r.channels := by
    rw [← Nat.add_mul, hread]
    congr 1
    omega
  have hround : r.pushed * r.channels + (samples.take (count * r.channels)).length ≤
      r.popped * r.channels + r.cells.size := by
    rw [htaken, h.size_cells, ← Nat.add_mul, ← Nat.add_mul]
    exact Nat.mul_le_mul_right _ (by omega)
  have hfits : (samples.take (count * r.channels)).length ≤ r.cells.size := by
    rw [htaken, h.size_cells]
    exact Nat.mul_le_mul_right _ (by omega)
  have hself := load_store_self r.cells (r.pushed * r.channels) hfits
  rw [htaken] at hself
  unfold queued
  rw [havailable, Nat.add_mul]
  show load (store r.cells (r.pushed * r.channels) (samples.take (count * r.channels)))
    (r.popped * r.channels) (r.availableRead * r.channels + count * r.channels) = _
  rw [load_add, hend, load_store_before (Nat.le_of_eq hend) hround, hself]

theorem toList_push : (r.push samples).2.toList =
    r.toList ++ (Sample.wholeFrames r.channels samples).take (r.push samples).1 := by
  have hwhole : r.queued.length = r.availableRead * r.channels := length_load ..
  rw [Sample.take_wholeFrames _ h.channels_pos]
  show Sample.wholeFrames r.channels (r.push samples).2.queued = _
  rw [queued_push h samples hturn hroom, Sample.wholeFrames_append _ h.channels_pos hwhole]
  rfl

end

theorem fst_pop (h : r.Valid) (out : List Sample) :
    (r.pop out).1 = min (out.length / r.channels) r.toList.length := by
  rw [h.length_toList]
  rfl

/-- The popped frames come to the front of the place for them, the rest of which stays. -/
theorem out_pop (h : r.Valid) (out : List Sample) : (r.pop out).2.1 =
    (r.toList.take (r.pop out).1).flatten ++ out.drop ((r.pop out).1 * r.channels) := by
  have hcount : min (r.pop out).1 r.availableRead = (r.pop out).1 :=
    Nat.min_eq_left (Nat.min_le_right ..)
  rw [h.take_toList, hcount, Sample.flatten_wholeFrames, length_load,
    Nat.mul_div_cancel _ h.channels_pos, List.take_of_length_le (Nat.le_of_eq (length_load ..))]
  rfl

/-- Counting on drops frames from the front. -/
theorem toList_skip (h : r.Valid) {n : Nat} (hn : n ≤ r.availableRead) :
    (r.skip n).toList = r.toList.drop n := by
  have hleft : (r.skip n).availableRead = r.availableRead - n := by
    rw [(h.skip hn).availableRead_eq, h.availableRead_eq, h.popped_skip hn, Nat.sub_add_eq]
    rfl
  rw [h.drop_toList hn]
  unfold toList queued
  rw [hleft, h.popped_skip hn]
  rfl

theorem toList_pop (h : r.Valid) (out : List Sample) :
    (r.pop out).2.2.toList = r.toList.drop (r.pop out).1 :=
  toList_skip h (Nat.min_le_right ..)

theorem fst_discard (h : r.Valid) (frames : Nat) :
    (r.discard frames).1 = min frames r.toList.length := by
  rw [h.length_toList]
  rfl

theorem toList_discard (h : r.Valid) (frames : Nat) :
    (r.discard frames).2.toList = r.toList.drop (r.discard frames).1 :=
  toList_skip h (Nat.min_le_right ..)

theorem toList_empty (capacity channels : Nat) (shared : Bool) :
    (empty capacity channels shared).toList = [] := by
  have hnone : (empty capacity channels shared).queued = [] := by
    refine List.eq_nil_of_length_eq_zero ?_
    rw [queued, length_load, show (empty capacity channels shared).availableRead = 0 from
      Nat.zero_min _, Nat.zero_mul]
  rw [toList, hnone]
  apply List.eq_nil_of_length_eq_zero
  rw [Sample.length_wholeFrames, List.length_nil, Nat.zero_div]

/-! ## Stretch by stretch -/

/-- `n / m`; dividing by zero is a fault. -/
def quotient? (n m : Nat) : Option Nat := if m = 0 then none else some (n / m)

/-- `n % m`; dividing by zero is a fault. -/
def remainder? (n m : Nat) : Option Nat := if m = 0 then none else some (n % m)

/-- Copies the `n` samples of `src` from `i` on over those of `dst` from `j` on; to leave either of
the two is a fault. -/
def copy? (src : List Sample) (i : Nat) (dst : List Sample) (j n : Nat) : Option (List Sample) :=
  if i + n ≤ src.length ∧ j + n ≤ dst.length then
    some (dst.take j ++ (src.drop i).take n ++ dst.drop (j + n))
  else none

/-- The `n` samples from `pos` on lie in the memory of a ring, behind its header. -/
def inside (r : Ring) (pos n : Nat) : Bool :=
  samplesAt r.shared + sampleBytes * (pos + n) ≤ r.bytes

/-- Copies into the sample area of a ring; to leave its memory is a fault too. -/
def copyIn? (r : Ring) (samples : List Sample) (i pos n : Nat) : Option Ring :=
  if r.inside pos n then
    (copy? samples i r.cells.toList pos n).map fun cells => { r with cells := cells.toArray }
  else none

/-- Copies out of the sample area of a ring. -/
def copyOut? (r : Ring) (pos : Nat) (out : List Sample) (i n : Nat) : Option (List Sample) :=
  if r.inside pos n then copy? r.cells.toList pos out i n else none

/-- Pushes in at most two stretches: up to the end of the area, and from its beginning on. -/
def push? (r : Ring) (samples : List Sample) : Option (Nat × Ring) := do
  let whole ← quotient? samples.length r.channels
  let count := min whole r.availableWrite
  if count = 0 then return (0, r)
  let start ← remainder? r.pushed r.capacity
  let first := min (r.capacity - start) count
  let filled ← r.copyIn? samples 0 (word (start * r.channels)) (first * r.channels)
  let filled ←
    if first < count then
      filled.copyIn? samples (first * r.channels) 0 ((count - first) * r.channels)
    else some filled
  return (count, { filled with pushed := word (r.pushed + count) })

/-- Pops in at most two stretches. -/
def pop? (r : Ring) (out : List Sample) : Option (Nat × List Sample × Ring) := do
  let whole ← quotient? out.length r.channels
  let count := min whole r.availableRead
  if count = 0 then return (0, out, r)
  let start ← remainder? r.popped r.capacity
  let first := min (r.capacity - start) count
  let out ← r.copyOut? (word (start * r.channels)) out 0 (first * r.channels)
  let out ←
    if first < count then
      r.copyOut? 0 out (first * r.channels) ((count - first) * r.channels)
    else some out
  return (count, out, r.skip count)

section

variable {samples out : List Sample} {i pos n : Nat}

/-- What lies in the area lies in the memory. -/
theorem Valid.inside_of_le (h : r.Valid) (hpos : pos + n ≤ r.cells.size) :
    r.inside pos n = true := by
  rw [h.size_cells] at hpos
  rw [inside, h.addressable.bytes_eq, decide_eq_true_eq]
  exact Nat.add_le_add_left (Nat.mul_le_mul_left _ hpos) _

/-- A copy into the area stores. -/
theorem copyIn?_eq (h : r.Valid) (hsrc : i + n ≤ samples.length) (hdst : pos + n ≤ r.cells.size) :
    r.copyIn? samples i pos n =
      some { r with cells := store r.cells pos ((samples.drop i).take n) } := by
  set copied := (samples.drop i).take n with hcopied
  have hlength : copied.length = n := by
    rw [hcopied, List.length_take, List.length_drop]
    omega
  have hin : i + n ≤ samples.length ∧ pos + n ≤ r.cells.toList.length := ⟨hsrc, by simpa using hdst⟩
  have hroom : pos + copied.length ≤ r.cells.size := by rwa [hlength]
  have hstore := toList_store hroom
  rw [hlength] at hstore
  rw [copyIn?, if_pos (h.inside_of_le hdst), copy?, if_pos hin, ← hstore]
  rfl

/-- A copy out of the area loads. -/
theorem copyOut?_eq (h : r.Valid) (hsrc : pos + n ≤ r.cells.size) (hdst : i + n ≤ out.length) :
    r.copyOut? pos out i n = some (out.take i ++ load r.cells pos n ++ out.drop (i + n)) := by
  have hin : pos + n ≤ r.cells.toList.length ∧ i + n ≤ out.length := ⟨by simpa using hsrc, hdst⟩
  rw [copyOut?, if_pos (h.inside_of_le hsrc), copy?, if_pos hin, load_eq_take_drop hsrc]

end

/-- Where `count` frames from the frame number `n` on lie: `first` of them from `start` on, and the
others, if the end of the area comes before, from its beginning on. -/
structure Stretches (r : Ring) (n count start first : Nat) : Prop where
  start_eq : start = n % r.capacity
  start_word : word (start * r.channels) = start * r.channels
  first_le : first ≤ count
  /-- No stretch leaves the area. -/
  inside : start * r.channels + first * r.channels ≤ r.cells.size
  rest_inside : (count - first) * r.channels ≤ r.cells.size
  /-- If there is a second stretch, the first one ends with the area. -/
  full : first < count → start * r.channels + first * r.channels = r.cells.size
  /-- Both together are all frames. -/
  whole : first * r.channels + (count - first) * r.channels = count * r.channels

theorem stretches (h : r.Valid) (n : Nat) {count : Nat} (hpos : 0 < count)
    (hcount : count ≤ r.capacity) :
    Stretches r n count (n % r.capacity) (min (r.capacity - n % r.capacity) count) := by
  have hstart : n % r.capacity < r.capacity := Nat.mod_lt _ (by omega)
  have harea : n % r.capacity * r.channels ≤ r.capacity * r.channels :=
    Nat.mul_le_mul_right _ (Nat.le_of_lt hstart)
  have haddressable := h.addressable
  refine ⟨rfl, word_of_lt ?_, Nat.min_le_right .., ?_, ?_, fun hfirst => ?_, ?_⟩
  · unfold Addressable sampleBytes at haddressable
    omega
  · rw [h.size_cells, ← Nat.add_mul]
    exact Nat.mul_le_mul_right _ (by omega)
  · rw [h.size_cells]
    exact Nat.mul_le_mul_right _ (by omega)
  · rw [h.size_cells, ← Nat.add_mul]
    congr 1
    omega
  · rw [← Nat.add_mul]
    congr 1
    omega

section

variable {n count start first : Nat} {samples : List Sample}

/-- Frames are stored where their stretches begin. -/
theorem Stretches.store_eq (h : Stretches r n count start first) (hvalid : r.Valid)
    (samples : List Sample) :
    store r.cells (n * r.channels) samples = store r.cells (start * r.channels) samples := by
  rw [h.start_eq, ← store_mod _ (n * r.channels), hvalid.size_cells, Nat.mul_mod_mul_right]

theorem Stretches.load_eq (h : Stretches r n count start first) (hvalid : r.Valid) (m : Nat) :
    load r.cells (n * r.channels) m = load r.cells (start * r.channels) m := by
  rw [h.start_eq, ← load_mod _ (n * r.channels), hvalid.size_cells, Nat.mul_mod_mul_right]

end

/-- **A push does not fault**, and its stretches are all that it stores. -/
theorem push?_eq (h : r.Valid) (samples : List Sample) :
    r.push? samples = some (r.push samples) := by
  have hwhole : quotient? samples.length r.channels = some (samples.length / r.channels) :=
    if_neg (Nat.ne_of_gt h.channels_pos)
  unfold push? push
  rw [hwhole]
  simp only [Option.bind_eq_bind, Option.bind_some]
  generalize hcount : min (samples.length / r.channels) r.availableWrite = count
  by_cases hnone : count = 0
  · rw [if_pos hnone, hnone, Nat.zero_mul, List.take_zero, Nat.add_zero, word_of_lt h.pushed_lt]
    rfl
  · have hroom : count ≤ r.capacity := by
      unfold availableWrite at hcount
      omega
    have hlength : count * r.channels ≤ samples.length := by
      rw [← hcount]
      exact min_div_mul_le ..
    have hcapacity : remainder? r.pushed r.capacity = some (r.pushed % r.capacity) :=
      if_neg (by omega)
    have hs := stretches h r.pushed (by omega) hroom
    rw [if_neg hnone, hcapacity]
    simp only [Option.bind_some]
    generalize min (r.capacity - r.pushed % r.capacity) count = first at hs
    have hparts := hs.whole
    rw [hs.start_word, copyIn?_eq h (by omega) hs.inside, Option.bind_some, List.drop_zero,
      hs.store_eq h]
    -- either the end of the area comes between two stretches, or there is but one
    by_cases hmore : first < count
    · set cells := store r.cells (r.pushed % r.capacity * r.channels)
        (samples.take (first * r.channels)) with hcells
      have hsize : cells.size = r.cells.size := size_store ..
      have hfilled : ({ r with cells } : Ring).Valid :=
        { h with size_cells := hsize.trans h.size_cells }
      have hrest : 0 + (count - first) * r.channels ≤ cells.size := by
        rw [hsize, Nat.zero_add]
        exact hs.rest_inside
      have hfirst : (samples.take (first * r.channels)).length = first * r.channels :=
        List.length_take_of_le (by omega)
      rw [if_pos hmore, copyIn?_eq hfilled (by omega) hrest, Option.bind_some, ← hparts,
        List.take_add, store_wrap (by rw [hfirst]; exact hs.full hmore), ← hcells]
      rfl
    · have hall : first = count := Nat.le_antisymm hs.first_le (Nat.le_of_not_lt hmore)
      rw [if_neg hmore, hall]
      rfl

/-- **A pop does not fault**, and its stretches are all that it loads. -/
theorem pop?_eq (h : r.Valid) (out : List Sample) : r.pop? out = some (r.pop out) := by
  have hwhole : quotient? out.length r.channels = some (out.length / r.channels) :=
    if_neg (Nat.ne_of_gt h.channels_pos)
  unfold pop? pop
  rw [hwhole]
  simp only [Option.bind_eq_bind, Option.bind_some]
  generalize hcount : min (out.length / r.channels) r.availableRead = count
  by_cases hnone : count = 0
  · have hskip : r.skip 0 = r := by
      rw [skip, Nat.add_zero, word_of_lt h.popped_lt]
    rw [if_pos hnone, hnone, Nat.zero_mul, List.drop_zero, hskip]
    rfl
  · have hroom : count ≤ r.capacity := by
      unfold availableRead at hcount
      omega
    have hlength : count * r.channels ≤ out.length := by
      rw [← hcount]
      exact min_div_mul_le ..
    have hcapacity : remainder? r.popped r.capacity = some (r.popped % r.capacity) :=
      if_neg (by omega)
    have hs := stretches h r.popped (by omega) hroom
    rw [if_neg hnone, hcapacity]
    simp only [Option.bind_some]
    generalize min (r.capacity - r.popped % r.capacity) count = first at hs
    have hparts := hs.whole
    rw [hs.start_word, copyOut?_eq h hs.inside (by omega), Option.bind_some, hs.load_eq h,
      List.take_zero, List.nil_append, Nat.zero_add]
    -- one stretch or two, as for a push
    by_cases hmore : first < count
    · have hrest : 0 + (count - first) * r.channels ≤ r.cells.size := by
        rw [Nat.zero_add]
        exact hs.rest_inside
      have hfirst : (load r.cells (r.popped % r.capacity * r.channels) (first * r.channels)).length
          = first * r.channels := length_load ..
      rw [if_pos hmore,
        copyOut?_eq h hrest (by rw [List.length_append, hfirst, List.length_drop]; omega),
        Option.bind_some, List.take_left' hfirst, ← hparts, load_wrap (hs.full hmore),
        List.drop_append, hfirst, List.drop_drop]
      simp
    · have hall : first = count := Nat.le_antisymm hs.first_le (Nat.le_of_not_lt hmore)
      rw [if_neg hmore, hall]
      rfl

end Ring

/-! ## A queue that is asked the same -/

/-- What can be asked of a ring. -/
inductive RingRequest where
  | push (samples : List Sample)
  /-- To pop to the front of `out`. -/
  | pop (out : List Sample)
  | discard (frames : Nat)

/-- What is given back: how many frames it were, and where they were popped to. -/
structure RingAnswer where
  frames : Nat
  out : List Sample := []

/-- What a ring answers. -/
def Ring.answer : RingRequest → StateM Ring RingAnswer
  | .push samples => fun r =>
    let (frames, r) := r.push samples
    ({ frames }, r)
  | .pop out => fun r =>
    let (frames, out, r) := r.pop out
    ({ frames, out }, r)
  | .discard frames => fun r =>
    let (frames, r) := r.discard frames
    ({ frames }, r)

/-- The same stretch by stretch; a discard copies nothing. -/
def Ring.answer? : RingRequest → StateT Ring Option RingAnswer
  | .push samples => fun r => do
    let (frames, r) ← r.push? samples
    return ({ frames }, r)
  | .pop out => fun r => do
    let (frames, out, r) ← r.pop? out
    return ({ frames, out }, r)
  | .discard frames => fun r => some (Ring.answer (.discard frames) r)

/-- A bounded queue of frames. -/
structure FrameQueue where
  /-- Frames that fit. -/
  capacity : Nat
  /-- Samples of a frame. -/
  channels : Nat
  /-- What is queued, oldest frame first. -/
  frames : List (List Sample) := []
  /-- How many frames were ever queued. -/
  total : Nat := 0

namespace FrameQueue

/-- An empty queue. No channel counts as one. -/
def empty (capacity channels : Nat) : FrameQueue := { capacity, channels := max channels 1 }

/-- What a queue answers: whole frames go in behind the others as long as they fit, and the oldest
ones come out. -/
def answer : RingRequest → StateM FrameQueue RingAnswer
  | .push samples => fun q =>
    let n := min (samples.length / q.channels) (q.capacity - q.frames.length)
    let new := (Sample.wholeFrames q.channels samples).take n
    ({ frames := n }, { q with frames := q.frames ++ new, total := q.total + n })
  | .pop out => fun q =>
    let n := min (out.length / q.channels) q.frames.length
    ({ frames := n, out := (q.frames.take n).flatten ++ out.drop (n * q.channels) },
      { q with frames := q.frames.drop n })
  | .discard n => fun q =>
    let n := min n q.frames.length
    ({ frames := n }, { q with frames := q.frames.drop n })

theorem total_le_answer (q : FrameQueue) (request : RingRequest) :
    q.total ≤ (answer request q).2.total := by
  cases request with
  | push samples => exact Nat.le_add_right ..
  | pop out => exact Nat.le_refl _
  | discard n => exact Nat.le_refl _

theorem total_le_mapM (q : FrameQueue) (requests : List RingRequest) :
    q.total ≤ (requests.mapM answer q).2.total := by
  induction requests generalizing q with
  | nil => exact Nat.le_refl _
  | cons request rest ih =>
    rw [List.mapM_cons]
    exact Nat.le_trans (q.total_le_answer request) (ih _)

theorem capacity_answer (q : FrameQueue) (request : RingRequest) :
    (answer request q).2.capacity = q.capacity := by
  cases request <;> rfl

theorem capacity_mapM (q : FrameQueue) (requests : List RingRequest) :
    (requests.mapM answer q).2.capacity = q.capacity := by
  induction requests generalizing q with
  | nil => rfl
  | cons request rest ih =>
    rw [List.mapM_cons]
    exact (ih _).trans (q.capacity_answer request)

end FrameQueue

namespace Ring

/-- A ring that holds what a queue does, and whose counters did not go around. -/
structure Refines (r : Ring) (q : FrameQueue) : Prop where
  valid : r.Valid
  capacity_eq : r.capacity = q.capacity
  channels_eq : r.channels = q.channels
  toList_eq : r.toList = q.frames
  pushed_eq : r.pushed = q.total
  popped_le : r.popped ≤ r.pushed

theorem refines_empty {capacity channels : Nat} {shared : Bool}
    (h : (empty capacity channels shared).Addressable) :
    Refines (empty capacity channels shared) (.empty capacity channels) :=
  ⟨valid_empty h, rfl, rfl, toList_empty .., rfl, Nat.le_refl 0⟩

variable {r : Ring} {q : FrameQueue}

/-- One request: both answer the same. -/
theorem Refines.answer_eq (h : Refines r q) (request : RingRequest) :
    (answer request r).1 = (FrameQueue.answer request q).1 := by
  obtain ⟨hvalid, hcapacity, hchannels, hlist, -, -⟩ := h
  -- what is said of the ring in terms of its list is said of the queue
  cases request with
  | push samples =>
    have hcount := fst_push hvalid samples
    rw [hlist, hcapacity, hchannels] at hcount
    exact congrArg (fun n => ({ frames := n } : RingAnswer)) hcount
  | pop out =>
    have hcount := fst_pop hvalid out
    have hout := out_pop hvalid out
    rw [hcount, hlist, hchannels] at hout
    rw [hlist, hchannels] at hcount
    show RingAnswer.mk (r.pop out).1 (r.pop out).2.1 = _
    rw [hcount, hout]
    rfl
  | discard n =>
    have hcount := fst_discard hvalid n
    rw [hlist] at hcount
    exact congrArg (fun n => ({ frames := n } : RingAnswer)) hcount

/-- Frames that are skipped were pushed before. -/
theorem Refines.skip (h : Refines r q) {n : Nat} (hn : n ≤ r.availableRead) :
    Refines (r.skip n) { q with frames := q.frames.drop n } where
  valid := h.valid.skip hn
  capacity_eq := h.capacity_eq
  channels_eq := h.channels_eq
  toList_eq := by rw [toList_skip h.valid hn, h.toList_eq]
  pushed_eq := h.pushed_eq
  popped_le := by
    have hread := h.valid.availableRead_eq
    have hle := h.popped_le
    rw [h.valid.popped_skip hn]
    show _ ≤ r.pushed
    omega

/-- And then hold the same, as long as the counters have room. -/
theorem Refines.answer (h : Refines r q) {request : RingRequest}
    (hfew : (FrameQueue.answer request q).2.total < 2 ^ 64) :
    Refines (answer request r).2 (FrameQueue.answer request q).2 := by
  cases request with
  | push samples =>
    have hcount := fst_push h.valid samples
    rw [h.toList_eq, h.capacity_eq, h.channels_eq] at hcount
    have hroom : r.pushed + (r.push samples).1 < 2 ^ 64 := by
      rw [hcount, h.pushed_eq]
      exact hfew
    have hpush := toList_push h.valid samples h.popped_le hroom
    rw [hcount, h.toList_eq, h.channels_eq] at hpush
    have hpushed : (r.push samples).2.pushed = r.pushed + (r.push samples).1 := word_of_lt hroom
    refine ⟨h.valid.push samples, h.capacity_eq, h.channels_eq, hpush, ?_, ?_⟩
    · refine hpushed.trans ?_
      rw [hcount, h.pushed_eq]
      rfl
    · exact hpushed ▸ Nat.le_trans h.popped_le (Nat.le_add_right ..)
  | pop out =>
    have hcount := fst_pop h.valid out
    rw [h.toList_eq, h.channels_eq] at hcount
    have hskip := h.skip (n := (r.pop out).1) (Nat.min_le_right ..)
    rw [hcount] at hskip
    show Refines (r.skip (r.pop out).1) _
    rw [hcount]
    exact hskip
  | discard n =>
    have hcount := fst_discard h.valid n
    rw [h.toList_eq] at hcount
    have hskip := h.skip (n := (r.discard n).1) (Nat.min_le_right ..)
    rw [hcount] at hskip
    show Refines (r.skip (r.discard n).1) _
    rw [hcount]
    exact hskip

/-- No request faults. -/
theorem Refines.answer? (h : Refines r q) (request : RingRequest) :
    answer? request r = some (Ring.answer request r) := by
  cases request with
  | push samples =>
    show (r.push? samples).bind _ = _
    rw [push?_eq h.valid samples]
    rfl
  | pop out =>
    show (r.pop? out).bind _ = _
    rw [pop?_eq h.valid out]
    rfl
  | discard n => rfl

/-- Request after request: the answers are the same, so is what is held, and nothing faults. -/
theorem Refines.mapM (h : Refines r q) {requests : List RingRequest}
    (hfew : (requests.mapM FrameQueue.answer q).2.total < 2 ^ 64) :
    (requests.mapM Ring.answer r).1 = (requests.mapM FrameQueue.answer q).1 ∧
      Refines (requests.mapM Ring.answer r).2 (requests.mapM FrameQueue.answer q).2 ∧
      requests.mapM Ring.answer? r = some (requests.mapM Ring.answer r) := by
  induction requests generalizing r q with
  | nil => exact ⟨rfl, h, rfl⟩
  | cons request rest ih =>
    rw [List.mapM_cons] at hfew
    obtain ⟨hanswers, hheld, hfaults⟩ :=
      ih (h.answer (Nat.lt_of_le_of_lt (FrameQueue.total_le_mapM _ rest) hfew)) hfew
    rw [List.mapM_cons, List.mapM_cons, List.mapM_cons]
    refine ⟨?_, hheld, ?_⟩
    · show (Ring.answer request r).1 :: _ = (FrameQueue.answer request q).1 :: _
      rw [h.answer_eq]
      exact congrArg _ hanswers
    · show (Ring.answer? request r).bind _ = _
      rw [h.answer?, Option.bind_some]
      show (rest.mapM Ring.answer? (Ring.answer request r).2).bind _ = _
      rw [hfaults]
      rfl

/-- **A ring is a bounded queue of frames.** Whatever is asked of a new one, whether its samples are
shared or not: if a word can tell its memory, and as long as fewer than `2 ^ 64` frames were pushed,
it answers what the queue answers, holds what the queue holds and faults nowhere. -/
theorem refines_queue {capacity channels : Nat} {shared : Bool}
    (haddressable : (empty capacity channels shared).Addressable) (requests : List RingRequest)
    (hfew : (requests.mapM FrameQueue.answer (.empty capacity channels)).2.total < 2 ^ 64) :
    let (answers, q) := requests.mapM FrameQueue.answer (.empty capacity channels)
    ∃ r : Ring, requests.mapM answer (empty capacity channels shared) = (answers, r) ∧
      requests.mapM answer? (empty capacity channels shared) = some (answers, r) ∧
      r.toList = q.frames ∧ r.availableRead = q.frames.length ∧
      r.availableWrite = capacity - q.frames.length := by
  obtain ⟨hanswers, hheld, hfaults⟩ := (refines_empty haddressable).mapM hfew
  have hread := hheld.valid.length_toList
  rw [hheld.toList_eq] at hread
  have hcapacity := FrameQueue.capacity_mapM (.empty capacity channels) requests
  rw [← hheld.capacity_eq] at hcapacity
  have hrun : requests.mapM answer (empty capacity channels shared) =
      ((requests.mapM FrameQueue.answer (.empty capacity channels)).1,
        (requests.mapM answer (empty capacity channels shared)).2) := Prod.ext hanswers rfl
  refine ⟨_, hrun, hfaults.trans (congrArg some hrun), hheld.toList_eq, hread.symm, ?_⟩
  rw [availableWrite, hcapacity, ← hread]
  rfl

/-- In a shared ring of three frames the second push lies around the end of the area. -/
theorem refines_queue_around_end :
    let requests : List RingRequest :=
      [.push [1, 1, 2, 2], .pop [0, 0, 9], .push [3, 3, 4, 4, 5, 5], .discard 1,
        .pop [0, 0, 0, 0, 7]]
    ∃ r : Ring, requests.mapM answer? (empty 3 2 true) =
        some ([⟨2, []⟩, ⟨1, [1, 1, 9]⟩, ⟨2, []⟩, ⟨1, []⟩, ⟨2, [3, 3, 4, 4, 7]⟩], r) ∧
      r.toList = [] := by
  have haddressable : (empty 3 2 true).Addressable := by decide
  obtain ⟨r, -, hfaults, hlist, -⟩ := refines_queue haddressable
    [.push [1, 1, 2, 2], .pop [0, 0, 9], .push [3, 3, 4, 4, 5, 5], .discard 1, .pop [0, 0, 0, 0, 7]]
    (by decide)
  exact ⟨r, hfaults, hlist⟩

/-- A ring of `2 ^ 63` frames of two samples has room for none, and to push one of them faults; a
shared one of `2 ^ 62` samples is not mapped at all. Queues of that many frames take what is
pushed. -/
theorem no_room_beyond_words :
    (empty (2 ^ 63) 2 false).cells = #[] ∧
      answer? (.push [1, 2]) (empty (2 ^ 63) 2 false) = none ∧
      (FrameQueue.answer (.push [1, 2]) (.empty (2 ^ 63) 2)).1.frames = 1 ∧
      map? (2 ^ 47) (2 ^ 62) 1 = none ∧
      (FrameQueue.answer (.push [1]) (.empty (2 ^ 62) 1)).1.frames = 1 :=
  ⟨rfl, rfl, rfl, if_neg (by decide), rfl⟩

end Ring

end HandsetAudio
