import HandsetAudio.Arithmetic.Word
import HandsetAudio.Pcm.Basic
import HandsetAudio.Pcm.Samples

/-!
# Frame rings

A `Ring` is a bounded queue of interleaved frames in a flat array. Two counters run
freely: `pushed` counts the frames that went in, `popped` those that came out; a frame
lives at its number modulo the capacity, and only the difference of the counters
matters. `toList` is the queue, oldest frame first; cells outside of it hold whatever
was left there.

The memory for a ring comes in one piece. That of a shared ring begins with a header,
which a peer process reads, and the samples lie behind it; in that of any other ring
there are but samples. Sizes and counters are words. A ring that asks for more memory
than a word can tell gets what is left of the number, and has no room for its frames:
only an `Addressable` ring does. What a host does not map (`map?`) or the process has no
room for (`allocate?`) is no ring at all.
-/

namespace HandsetAudio

/-- A bounded queue of frames. -/
structure Ring where
  /-- Frames that fit. -/
  capacity : Nat
  /-- Samples of a frame. -/
  channels : Nat
  /-- Whether the samples lie behind a header. -/
  shared : Bool
  /-- The sample area, as large as the memory has room. -/
  cells : Array Sample
  pushed : Nat := 0
  popped : Nat := 0
  deriving DecidableEq, Repr

namespace Ring

/-! ## Memory -/

/-- Bytes of the header in front of shared samples. -/
def headerBytes : Nat := 64

/-- The byte of a ring's memory where its samples begin. -/
def samplesAt (shared : Bool) : Nat := if shared then headerBytes else 0

/-- The bytes that are asked for to hold a ring. -/
def bytesFor (capacity channels : Nat) (shared : Bool) : Nat :=
  if shared then word (headerBytes + sampleBytes * capacity * channels)
  else sampleBytes * word (capacity * channels)

/-- An empty ring. No channel counts as one. -/
def empty (capacity channels : Nat) (shared : Bool) : Ring :=
  let channels := max channels 1
  let room := bytesFor capacity channels shared - samplesAt shared
  { capacity, channels, shared, cells := Array.replicate (room / sampleBytes) 0 }

/-- The bytes of the ring's memory. -/
def bytes (r : Ring) : Nat := bytesFor r.capacity r.channels r.shared

/-- A word can tell how much memory the ring takes. -/
def Addressable (r : Ring) : Prop :=
  samplesAt r.shared + sampleBytes * (r.capacity * r.channels) < 1 <<< 64

instance (r : Ring) : Decidable r.Addressable := inferInstanceAs (Decidable (_ < _))

/-- An empty shared ring, from a host that maps at most `limit` bytes. -/
def map? (limit capacity channels : Nat) : Option Ring :=
  if bytesFor capacity (max channels 1) true ≤ limit then some (empty capacity channels true)
  else none

/-- An empty ring in memory of the process. No piece of it takes half of the address
space or more: the program stops instead. -/
def allocate? (capacity channels : Nat) : Option Ring :=
  if bytesFor capacity (max channels 1) false < 1 <<< 63 then some (empty capacity channels false)
  else none

/-! ## The queue -/

/-- Frames ready to be popped. -/
def availableRead (r : Ring) : Nat := min (r.pushed - r.popped) r.capacity

/-- Frames that can be pushed without overwriting. -/
def availableWrite (r : Ring) : Nat := r.capacity - r.availableRead

/-- Writes samples into `cells` from the position `pos` on, modulo their number. -/
def store (cells : Array Sample) (pos : Nat) : List Sample → Array Sample
  | [] => cells
  | s :: rest => store (cells.setIfInBounds (pos % cells.size) s) (pos + 1) rest

/-- Reads `n` samples of `cells` from the position `pos` on, modulo their number. -/
def load (cells : Array Sample) (pos n : Nat) : List Sample :=
  (List.range n).map fun i => cells.getD ((pos + i) % cells.size) 0

/-- The samples that are queued, oldest first. -/
def queued (r : Ring) : List Sample :=
  load r.cells (r.popped * r.channels) (r.availableRead * r.channels)

/-- The queue of frames, oldest first. -/
def toList (r : Ring) : List (List Sample) := Sample.wholeFrames r.channels r.queued

/-- Pushes the whole frames of `samples` that fit, and tells how many those were. -/
def push (r : Ring) (samples : List Sample) : Nat × Ring :=
  let count := min (samples.length / r.channels) r.availableWrite
  (count,
    { r with
      cells := store r.cells (r.pushed * r.channels) (samples.take (count * r.channels))
      pushed := word (r.pushed + count) })

/-- The ring with `count` frames less at the front. -/
def skip (r : Ring) (count : Nat) : Ring := { r with popped := word (r.popped + count) }

/-- Pops whole frames to the front of `out`, and tells how many those were. -/
def pop (r : Ring) (out : List Sample) : Nat × List Sample × Ring :=
  let count := min (out.length / r.channels) r.availableRead
  let taken := load r.cells (r.popped * r.channels) (count * r.channels)
  (count, taken ++ out.drop (count * r.channels), r.skip count)

/-- Drops up to `frames` of the oldest frames, and tells how many those were. -/
def discard (r : Ring) (frames : Nat) : Nat × Ring :=
  let count := min frames r.availableRead
  (count, r.skip count)

/-- What an addressable ring keeps from the beginning: a frame has a sample, the sample
area has room for all of them, the counters are words, and no more frames are queued
than fit. -/
structure Valid (r : Ring) : Prop where
  channels_pos : 0 < r.channels
  addressable : r.Addressable
  size_cells : r.cells.size = r.capacity * r.channels
  pushed_lt : r.pushed < 1 <<< 64
  popped_lt : r.popped < 1 <<< 64
  pushed_le : r.pushed ≤ r.popped + r.capacity

@[simp] theorem size_store (cells : Array Sample) (pos : Nat) (samples : List Sample) :
    (store cells pos samples).size = cells.size := by
  induction samples generalizing cells pos with
  | nil => rfl
  | cons s rest ih => rw [store, ih, Array.size_setIfInBounds]

/-- An addressable ring gets the memory that it takes. -/
theorem Addressable.bytes_eq {r : Ring} (h : r.Addressable) :
    r.bytes = samplesAt r.shared + sampleBytes * (r.capacity * r.channels) := by
  unfold Addressable at h
  unfold bytes bytesFor
  cases hshared : r.shared with
  | true =>
    rw [hshared] at h
    rw [Nat.mul_assoc]
    exact word_of_lt h
  | false =>
    rw [hshared] at h
    simp only [samplesAt, sampleBytes, Bool.false_eq_true, if_false, Nat.zero_add] at h ⊢
    rw [word_of_lt (by omega)]

theorem valid_empty {capacity channels : Nat} {shared : Bool}
    (h : (empty capacity channels shared).Addressable) :
    (empty capacity channels shared).Valid := by
  have hzero : 0 < 1 <<< 64 := by decide
  refine ⟨Nat.lt_of_lt_of_le Nat.zero_lt_one (Nat.le_max_right ..), h, ?_, hzero, hzero,
    Nat.zero_le _⟩
  have hroom : bytesFor capacity (max channels 1) shared =
      samplesAt shared + sampleBytes * (capacity * max channels 1) := h.bytes_eq
  show (Array.replicate _ _).size = capacity * max channels 1
  rw [Array.size_replicate, hroom, Nat.add_sub_cancel_left]
  exact Nat.mul_div_cancel_left _ Nat.zero_lt_two

theorem Valid.push {r : Ring} (h : r.Valid) (samples : List Sample) :
    (r.push samples).2.Valid := by
  have hle := h.pushed_le
  refine ⟨h.channels_pos, h.addressable, ?_, word_lt _, h.popped_lt, ?_⟩
  · simpa [Ring.push] using h.size_cells
  · refine Nat.le_trans (word_le _) ?_
    show _ ≤ r.popped + r.capacity
    simp only [availableWrite, availableRead]
    generalize samples.length / r.channels = n
    omega

/-- There are no more frames to skip than the counters are apart. -/
theorem Valid.popped_skip {r : Ring} (h : r.Valid) {count : Nat}
    (hcount : count ≤ r.availableRead) :
    (r.skip count).popped = r.popped + count := by
  have hpushed := h.pushed_lt
  have hpopped := h.popped_lt
  have hread : count ≤ r.pushed - r.popped := Nat.le_trans hcount (Nat.min_le_left ..)
  exact word_of_lt (by omega)

theorem Valid.skip {r : Ring} (h : r.Valid) {count : Nat} (hcount : count ≤ r.availableRead) :
    (r.skip count).Valid := by
  have hle := h.pushed_le
  refine ⟨h.channels_pos, h.addressable, h.size_cells, h.pushed_lt, word_lt _, ?_⟩
  rw [h.popped_skip hcount]
  exact Nat.le_trans hle (by show _ ≤ _ + count + r.capacity; omega)

theorem Valid.pop {r : Ring} (h : r.Valid) (out : List Sample) : (r.pop out).2.2.Valid :=
  h.skip (Nat.min_le_right ..)

theorem Valid.discard {r : Ring} (h : r.Valid) (frames : Nat) : (r.discard frames).2.Valid :=
  h.skip (Nat.min_le_right ..)

end Ring

end HandsetAudio
