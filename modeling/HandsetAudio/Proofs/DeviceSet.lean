import HandsetAudio.Mixer.Tables
import HandsetAudio.Routing

/-!
# The two halves of the devices

Each path serves one half of the devices. Replacing a half leaves the other one as it is,
and a set within a half cannot see the rest. The call policy leaves some output, and never
the loudspeaker.
-/

namespace HandsetAudio

namespace DeviceSet

theorem inter_assoc (a b c : DeviceSet) : (a ∩ b) ∩ c = a ∩ (b ∩ c) :=
  congrArg DeviceSet.mk (BitVec.and_assoc ..)

theorem inter_comm (a b : DeviceSet) : a ∩ b = b ∩ a :=
  congrArg DeviceSet.mk (BitVec.and_comm ..)

theorem union_inter_distrib (a b c : DeviceSet) : (a ∪ b) ∩ c = (a ∩ c) ∪ (b ∩ c) :=
  congrArg DeviceSet.mk BitVec.and_or_distrib_right

theorem inter_self (a : DeviceSet) : a ∩ a = a := congrArg DeviceSet.mk BitVec.and_self

theorem union_empty (a : DeviceSet) : a ∪ ∅ = a := congrArg DeviceSet.mk BitVec.or_zero

theorem inter_empty (a : DeviceSet) : a ∩ ∅ = ∅ := congrArg DeviceSet.mk BitVec.and_zero

theorem empty_inter (a : DeviceSet) : ∅ ∩ a = ∅ := congrArg DeviceSet.mk BitVec.zero_and

/-- Taking away what lies outside a mask does not show within it. -/
theorem sdiff_inter {a b mask : DeviceSet} (h : b ∩ mask = ∅) : (a \ b) ∩ mask = a ∩ mask := by
  refine congrArg DeviceSet.mk (BitVec.eq_of_getLsbD_eq fun i hi => ?_)
  have hbit : (b.bits &&& mask.bits).getLsbD i = (0#32).getLsbD i :=
    congrArg (fun s : DeviceSet => s.bits.getLsbD i) h
  show (a.bits &&& ~~~b.bits &&& mask.bits).getLsbD i = (a.bits &&& mask.bits).getLsbD i
  simp only [BitVec.getLsbD_and, BitVec.getLsbD_zero] at hbit
  simp only [BitVec.getLsbD_and, BitVec.getLsbD_not, hi, decide_true, Bool.true_and]
  cases hb : b.bits.getLsbD i <;> cases hm : mask.bits.getLsbD i <;> simp_all

@[simp] theorem empty_intersects (s : DeviceSet) : (∅ : DeviceSet).intersects s = false := by
  simp [intersects, isEmpty, empty_inter]

/-- Where there is an output, all outputs meet it. -/
theorem intersects_allOutputs {s : DeviceSet} (h : s.outputs.isEmpty = false) :
    allOutputs.intersects s = true := by
  unfold intersects
  rw [inter_comm]
  exact Bool.not_eq_true' _ ▸ h

/-- A set within a mask meets another one within the mask, if at all. -/
theorem intersects_congr {s mask a b : DeviceSet} (hs : s ∩ mask = s)
    (h : a ∩ mask = b ∩ mask) : s.intersects a = s.intersects b := by
  have hmeet : ∀ c : DeviceSet, s ∩ c = s ∩ (c ∩ mask) := by
    intro c
    rw [inter_comm c mask, ← inter_assoc, hs]
  simp only [intersects]
  rw [hmeet a, hmeet b, h]

/-- Replacing the outputs leaves the inputs as they are. -/
theorem inputs_withOutputs (s o : DeviceSet) : (s.withOutputs o).inputs = s.inputs := by
  unfold withOutputs inputs outputs
  rw [union_inter_distrib, sdiff_inter allOutputs_inter_allInputs, inter_assoc,
    allOutputs_inter_allInputs, inter_empty, union_empty]

/-- Replacing the inputs leaves the outputs as they are. -/
theorem outputs_withInputs (s i : DeviceSet) : (s.withInputs i).outputs = s.outputs := by
  have hdisjoint : allInputs ∩ allOutputs = ∅ := by
    rw [inter_comm, allOutputs_inter_allInputs]
  unfold withInputs inputs outputs
  rw [union_inter_distrib, sdiff_inter hdisjoint, inter_assoc, hdisjoint, inter_empty, union_empty]

theorem sdiff_inter_self (a b : DeviceSet) : (a \ b) ∩ b = ∅ := by
  refine congrArg DeviceSet.mk ?_
  show a.bits &&& ~~~b.bits &&& b.bits = 0#32
  rw [BitVec.and_assoc, BitVec.not_and_self]
  exact BitVec.and_zero

theorem inter_inter_self (s half : DeviceSet) : s ∩ half ∩ half = s ∩ half := by
  rw [inter_assoc, inter_self]

theorem outputs_outputs (s : DeviceSet) : s.outputs.outputs = s.outputs :=
  inter_inter_self s allOutputs

/-- A half that is replaced is that of the other set. -/
theorem replaced_inter (s o half : DeviceSet) : ((s \ half) ∪ (o ∩ half)) ∩ half = o ∩ half := by
  rw [union_inter_distrib, sdiff_inter_self, inter_assoc, inter_self]
  exact congrArg DeviceSet.mk BitVec.zero_or

/-- Replacing the outputs leaves those of the other set. -/
theorem outputs_withOutputs (s o : DeviceSet) : (s.withOutputs o).outputs = o.outputs :=
  replaced_inter s o allOutputs

theorem inter_union_sdiff (a b : DeviceSet) : (a ∩ b) ∪ (a \ b) = a := by
  refine congrArg DeviceSet.mk ?_
  show a.bits &&& b.bits ||| a.bits &&& ~~~b.bits = a.bits
  rw [← BitVec.and_or_distrib_left, BitVec.or_not_self, BitVec.and_allOnes]

/-- What a set has in common with the loudspeaker is the loudspeaker or nothing. -/
theorem inter_speaker (s : DeviceSet) : s ∩ speaker = speaker ∨ s ∩ speaker = ∅ := by
  have hbit : s ∩ speaker = ⟨s.bits &&& BitVec.twoPow 32 1⟩ := rfl
  rw [hbit, BitVec.and_twoPow]
  cases s.bits.getLsbD 1 with
  | true => exact .inl rfl
  | false => exact .inr rfl

/-- Outputs that the loudspeaker leaves empty are the loudspeaker alone, if any. -/
theorem eq_speaker_of_sdiff {s : DeviceSet} (h : s \ speaker = ∅) (hsome : s ≠ ∅) :
    s = speaker := by
  have hcommon : s ∩ speaker = s := by
    have hsplit := inter_union_sdiff s speaker
    rwa [h, union_empty] at hsplit
  rcases inter_speaker s with hs | hs
  · rw [← hcommon, hs]
  · exact absurd (hcommon.symm.trans hs) hsome

/-- The devices of a call that starts still have an output. -/
theorem callEntry_outputs {s : DeviceSet} (h : s.outputs.isEmpty = false) :
    s.callEntry.outputs.isEmpty = false := by
  unfold callEntry
  split
  next => decide
  next hother =>
    have hhalf : (s \ speaker).outputs = s.outputs \ speaker := by
      refine congrArg DeviceSet.mk ?_
      show s.bits &&& ~~~speaker.bits &&& allOutputs.bits =
        s.bits &&& allOutputs.bits &&& ~~~speaker.bits
      ac_rfl
    simp only [isEmpty, beq_eq_false_iff_ne] at h ⊢
    rw [hhalf]
    exact fun hnone => hother (eq_speaker_of_sdiff hnone h)

/-- A call does not start on the loudspeaker. -/
theorem callEntry_speaker (s : DeviceSet) : speaker.intersects s.callEntry = false := by
  unfold callEntry
  split
  next => decide
  next =>
    simp only [intersects, inter_comm speaker, sdiff_inter_self]
    rfl

/-- The inputs of a call that starts are those from before, or the main microphone. -/
theorem callEntry_inputs {s : DeviceSet} (h : s.inputs.isEmpty = false) :
    s.callEntry.inputs.isEmpty = false := by
  unfold callEntry
  split
  next => decide
  next =>
    have hdisjoint : speaker ∩ allInputs = ∅ := by decide
    have hsame : (s \ speaker).inputs = s.inputs := sdiff_inter hdisjoint
    rw [hsame]
    exact h

/-! ## Sets within a set -/

/-- `a ⊆ b`: every endpoint of `a` is one of `b`. -/
instance : HasSubset DeviceSet := ⟨fun a b => a ∩ b = a⟩

instance (a b : DeviceSet) : Decidable (a ⊆ b) := inferInstanceAs (Decidable (a ∩ b = a))

theorem union_subset {a b c : DeviceSet} (ha : a ⊆ c) (hb : b ⊆ c) : a ∪ b ⊆ c := by
  show (a ∪ b) ∩ c = a ∪ b
  rw [union_inter_distrib, show a ∩ c = a from ha, show b ∩ c = b from hb]

theorem inter_subset_of_right (a : DeviceSet) {b c : DeviceSet} (h : b ⊆ c) : a ∩ b ⊆ c := by
  show (a ∩ b) ∩ c = a ∩ b
  rw [inter_assoc, show b ∩ c = b from h]

theorem sdiff_subset {a c : DeviceSet} (h : a ⊆ c) (b : DeviceSet) : a \ b ⊆ c := by
  have hsdiff : a \ b = a ∩ ⟨~~~b.bits⟩ := rfl
  rw [hsdiff, inter_comm]
  exact inter_subset_of_right _ h

/-- The policy for the start of a call adds nothing beyond outputs and inputs. -/
theorem callEntry_subset {s : DeviceSet} (h : s ⊆ allOutputs ∪ allInputs) :
    s.callEntry ⊆ allOutputs ∪ allInputs := by
  unfold callEntry
  split
  next => decide
  next => exact sdiff_subset h speaker

/-- The modem's path is a matter of the outputs. -/
theorem callPath_withInputs (s i : DeviceSet) (nrec : Bool) :
    (s.withInputs i).callPath nrec = s.callPath nrec := by
  simp only [callPath, outputs_withInputs]

end DeviceSet

/-- The half of the devices that a path serves. -/
def Path.half : Path → DeviceSet → DeviceSet
  | .output, s => s.outputs
  | .input, s => s.inputs

/-- The devices with the half that a path serves replaced. -/
def Path.replace : Path → DeviceSet → DeviceSet → DeviceSet
  | .output, s, o => s.withOutputs o
  | .input, s, i => s.withInputs i

theorem Path.half_half (p : Path) (s : DeviceSet) : p.half (p.half s) = p.half s := by
  cases p <;> exact DeviceSet.inter_inter_self ..

/-- Replacing a half leaves that of the other set. -/
theorem Path.half_replace_self (p : Path) (s o : DeviceSet) :
    p.half (p.replace s o) = p.half o := by
  cases p with
  | output => exact DeviceSet.replaced_inter s o DeviceSet.allOutputs
  | input => exact DeviceSet.replaced_inter s o DeviceSet.allInputs

/-- Replacing the half of one path leaves the half of the other as it is. -/
theorem Path.half_replace_of_ne {p q : Path} (h : q ≠ p) (s o : DeviceSet) :
    q.half (p.replace s o) = q.half s := by
  cases p <;> cases q
  · exact absurd rfl h
  · exact DeviceSet.inputs_withOutputs s o
  · exact DeviceSet.outputs_withInputs s o
  · exact absurd rfl h

/-- A half holds outputs and inputs only. -/
theorem Path.half_subset (p : Path) (s : DeviceSet) :
    p.half s ⊆ DeviceSet.allOutputs ∪ DeviceSet.allInputs := by
  cases p with
  | output => exact DeviceSet.inter_subset_of_right s (by decide)
  | input => exact DeviceSet.inter_subset_of_right s (by decide)

/-- Replacing a half adds nothing beyond outputs and inputs. -/
theorem Path.replace_subset (p : Path) {s : DeviceSet}
    (h : s ⊆ DeviceSet.allOutputs ∪ DeviceSet.allInputs) (o : DeviceSet) :
    p.replace s o ⊆ DeviceSet.allOutputs ∪ DeviceSet.allInputs := by
  cases p with
  | output => exact DeviceSet.union_subset (DeviceSet.sdiff_subset h _) (Path.half_subset .output o)
  | input => exact DeviceSet.union_subset (DeviceSet.sdiff_subset h _) (Path.half_subset .input o)

end HandsetAudio
