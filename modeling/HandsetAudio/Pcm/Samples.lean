/-!
# Samples, their bytes and their frames

A sample is a signed 16-bit number and travels as two bytes, the low one first. A
frame holds one sample of each channel; interleaved samples are cut into frames by
`wholeFrames`, which drops an incomplete one at the end.
-/

namespace HandsetAudio

/-- One sample of one channel. -/
abbrev Sample := Int16

namespace Sample

/-- The sample with the two bytes. -/
def ofBytePair (low high : UInt8) : Sample :=
  (low.toUInt16 ||| (high.toUInt16 <<< 8)).toInt16

/-- The two bytes of a sample. -/
def bytePair (s : Sample) : List UInt8 :=
  [s.toUInt16.toUInt8, (s.toUInt16 >>> 8).toUInt8]

/-- The samples in `bytes`; a last odd byte is ignored. -/
def ofBytes : List UInt8 → List Sample
  | low :: high :: rest => ofBytePair low high :: ofBytes rest
  | _ => []

/-- The bytes of `samples`. -/
def toBytes (samples : List Sample) : List UInt8 := samples.flatMap bytePair

theorem toBytes_append (a b : List Sample) : toBytes (a ++ b) = toBytes a ++ toBytes b := by
  simp [toBytes]

@[simp] theorem length_toBytes (samples : List Sample) :
    (toBytes samples).length = 2 * samples.length := by
  induction samples with
  | nil => rfl
  | cons s rest ih =>
    have h : toBytes (s :: rest) = bytePair s ++ toBytes rest := by simp [toBytes]
    rw [h, List.length_append, ih, List.length_cons]
    simp only [bytePair, List.length_cons, List.length_nil]
    omega

/-- The first `count` frames of `n` samples. -/
def frames (n : Nat) : (count : Nat) → List Sample → List (List Sample)
  | 0, _ => []
  | count + 1, samples => samples.take n :: frames n count (samples.drop n)

/-- Every whole frame of `n` samples. -/
def wholeFrames (n : Nat) (samples : List Sample) : List (List Sample) :=
  frames n (samples.length / n) samples

@[simp] theorem length_frames (n count : Nat) (samples : List Sample) :
    (frames n count samples).length = count := by
  induction count generalizing samples with
  | zero => rfl
  | succ count ih => simp [frames, ih]

@[simp] theorem length_wholeFrames (n : Nat) (samples : List Sample) :
    (wholeFrames n samples).length = samples.length / n := length_frames ..

end Sample

end HandsetAudio
