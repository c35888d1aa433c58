import HandsetAudio.Arithmetic.Rounding
import HandsetAudio.Pcm.Samples

/-!
# Linear resampling

A `Resampler` turns frames at one rate into frames at another by linear interpolation.
Between two buffers it carries the last frame and the read position, so that the
buffers join without a seam: position 0 is the carried frame, position `k + 1` is
frame `k` of the new buffer. The first buffer carries its own first frame.

Which positions are read depends on the number of frames alone (`positions`), and
every output frame is the blend of two neighbouring frames, channel by channel
(`blend`). Positions and samples are computed in rounded double precision.
-/

namespace HandsetAudio

open Arithmetic

/-- A converter between two sample rates. -/
structure Resampler where
  /-- Frames each second that come in. -/
  inRate : Nat
  /-- Frames each second that go out. -/
  outRate : Nat
  /-- Samples of a frame. -/
  channels : Nat
  /-- Read position relative to the carried frame. -/
  phase : Rat := 0
  /-- The last frame of the previous buffer. -/
  carried : Option (List Sample) := none
  deriving DecidableEq, Repr

namespace Resampler

/-- A converter that has seen nothing. No channel counts as one. -/
def new (inRate outRate channels : Nat) : Resampler :=
  { inRate, outRate, channels := max channels 1 }

/-- How far the read position moves from one output frame to the next. -/
def stride (r : Resampler) : Rat := Rounded.div r.inRate (max r.outRate 1 : Nat)

/-- The converter after it forgot the carried frame and the position. -/
def reset (r : Resampler) : Resampler := { r with phase := 0, carried := none }

/-- The positions below `limit` that are read from `phase` on, and the first one that
is not. -/
def positions (stride : Rat) (limit : Nat) : (fuel : Nat) → (phase : Rat) → List Rat × Rat
  | 0, phase => ([], phase)
  | fuel + 1, phase =>
    if phase < limit then
      let (rest, last) := positions stride limit fuel (Rounded.add phase stride)
      (phase :: rest, last)
    else ([], phase)

/-- The sample nearest to `x`. -/
def quantize (x : Rat) : Sample :=
  Int16.ofInt (max (-32768) (min 32767 (roundAway x)))

/-- The value between `a` and `b` at the fraction `t` of the way. -/
def blend (t : Rat) (a b : Sample) : Sample :=
  quantize (Rounded.add a.toInt (Rounded.mul (b.toInt - a.toInt) t))

/-- The frame at the position `p` of `history`. -/
def frameAt (history : Array (List Sample)) (p : Rat) : List Sample :=
  let i := p.floor.toNat
  List.zipWith (blend (Rounded.sub p i)) (history.getD i []) (history.getD (i + 1) [])

/-- Steps within which the read position passes `frames` frames. The position moves by
at least half the exact ratio of the rates, so this is more than is ever used. -/
def stepBound (r : Resampler) (frames : Nat) : Nat := 2 * frames * max r.outRate 1 + 1

/-- Converts whole frames. -/
def convert (r : Resampler) (frames : List (List Sample)) :
    List (List Sample) × Resampler :=
  match frames with
  | [] => ([], r)
  | first :: _ =>
    let history := (r.carried.getD first :: frames).toArray
    let (read, last) := positions r.stride frames.length (r.stepBound frames.length) r.phase
    (read.map (frameAt history),
      { r with phase := Rounded.sub last frames.length, carried := frames.getLast? })

/-- Converts interleaved samples and appends the result to `out`; also tells how many
frames were appended. An incomplete frame at the end of the samples is dropped. -/
def process (r : Resampler) (samples out : List Sample) : Nat × List Sample × Resampler :=
  let (produced, r') := r.convert (Sample.wholeFrames r.channels samples)
  (produced.length, out ++ produced.flatten, r')

end Resampler

end HandsetAudio
