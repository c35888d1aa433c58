import HandsetAudio.Pcm.Ring
import Mathlib.Data.Nat.ModEq

/-!
# The sample area of a ring

Positions in the area of a ring count on and on and are taken modulo its size. Samples that fill at
most one round are found again where they were stored (`load_store_self`), and what lies within the
round before their end stays as it was (`load_store_before`). A transfer that does not reach the end
of the area is a plain copy (`toList_store`, `load_eq_take_drop`); behind its end the area begins
anew (`store_wrap`, `load_wrap`).
-/

namespace HandsetAudio

namespace Ring

/-- The sample at a position. -/
def sampleAt (cells : Array Sample) (pos : Nat) : Sample := cells.getD (pos % cells.size) 0

variable {cells : Array Sample} {samples : List Sample} {pos p m n : Nat}

/-- The samples of whole frames are no more than there are. -/
theorem min_div_mul_le (samples channels frames : Nat) :
    min (samples / channels) frames * channels ≤ samples :=
  Nat.le_trans (Nat.mul_le_mul_right _ (Nat.min_le_left ..)) (Nat.div_mul_le_self ..)

@[simp] theorem length_load (cells : Array Sample) (pos n : Nat) :
    (load cells pos n).length = n := by
  simp [load]

theorem load_add (cells : Array Sample) (pos m n : Nat) :
    load cells pos (m + n) = load cells pos m ++ load cells (pos + m) n := by
  unfold load
  rw [List.range_add, List.map_append, List.map_map]
  congr 1
  refine List.map_congr_left fun i _ => ?_
  simp only [Function.comp_apply, Nat.add_assoc]

theorem take_load (h : m ≤ n) : (load cells pos n).take m = load cells pos m := by
  obtain ⟨k, rfl⟩ := Nat.exists_eq_add_of_le h
  rw [load_add, List.take_left' (length_load ..)]

theorem drop_load (h : m ≤ n) : (load cells pos n).drop m = load cells (pos + m) (n - m) := by
  obtain ⟨k, rfl⟩ := Nat.exists_eq_add_of_le h
  rw [load_add, List.drop_left' (length_load ..), Nat.add_sub_cancel_left]

theorem store_append (cells : Array Sample) (pos : Nat) (a b : List Sample) :
    store cells pos (a ++ b) = store (store cells pos a) (pos + a.length) b := by
  induction a generalizing cells pos with
  | nil => rfl
  | cons s a ih =>
    rw [List.cons_append, store, store, ih, List.length_cons, Nat.add_assoc, Nat.add_comm 1]

/-! ## What is stored is found again -/

/-- Positions less than a round apart are different cells. -/
theorem mod_ne_of_lt {N : Nat} (h : p < pos) (h' : pos < p + N) : pos % N ≠ p % N := by
  intro heq
  have hround : N ∣ pos - p := (Nat.modEq_iff_dvd' (Nat.le_of_lt h)).1 heq.symm
  have hle := Nat.le_of_dvd (by omega) hround
  omega

/-- What lies within the round before the end of stored samples, and before them, stays. -/
theorem sampleAt_store_before (h : p < pos) (h' : pos + samples.length ≤ p + cells.size) :
    sampleAt (store cells pos samples) p = sampleAt cells p := by
  induction samples generalizing cells pos with
  | nil => rfl
  | cons s rest ih =>
    rw [List.length_cons] at h'
    have hsize : (cells.setIfInBounds (pos % cells.size) s).size = cells.size :=
      Array.size_setIfInBounds
    have hother := mod_ne_of_lt h (show pos < p + cells.size by omega)
    rw [store, ih (by omega) (by omega)]
    unfold sampleAt
    rw [hsize, Array.getD_eq_getD_getElem?, Array.getElem?_setIfInBounds_ne hother,
      ← Array.getD_eq_getD_getElem?]

theorem load_store_before (h : p + n ≤ pos) (h' : pos + samples.length ≤ p + cells.size) :
    load (store cells pos samples) p n = load cells p n := by
  unfold load
  refine List.map_congr_left fun i hi => ?_
  have hlt := List.mem_range.1 hi
  exact sampleAt_store_before (by omega) (by omega)

/-- **What is stored is found again**, if it fills at most one round. -/
theorem load_store_self (cells : Array Sample) (pos : Nat) (h : samples.length ≤ cells.size) :
    load (store cells pos samples) pos samples.length = samples := by
  induction samples generalizing cells pos with
  | nil => rfl
  | cons s rest ih =>
    rw [List.length_cons] at h
    have hsize : (cells.setIfInBounds (pos % cells.size) s).size = cells.size :=
      Array.size_setIfInBounds
    have hfirst : sampleAt (store cells pos (s :: rest)) pos = s := by
      rw [store, sampleAt_store_before (Nat.lt_succ_self pos) (by omega)]
      unfold sampleAt
      have hin : pos % cells.size < cells.size := Nat.mod_lt _ (by omega)
      rw [hsize, Array.getD_eq_getD_getElem?, Array.getElem?_setIfInBounds_self_of_lt hin]
      rfl
    have hrest := ih (cells.setIfInBounds (pos % cells.size) s) (pos + 1) (by omega)
    rw [List.length_cons, Nat.add_comm, load_add]
    show [sampleAt (store cells pos (s :: rest)) pos] ++
      load (store (cells.setIfInBounds (pos % cells.size) s) (pos + 1) rest) (pos + 1) rest.length =
        s :: rest
    rw [hfirst, hrest]
    rfl

/-! ## Rounds do not matter -/

theorem store_mod (cells : Array Sample) (pos : Nat) (samples : List Sample) :
    store cells (pos % cells.size) samples = store cells pos samples := by
  induction samples generalizing cells pos with
  | nil => rfl
  | cons s rest ih =>
    have hnext : ∀ q, store (cells.setIfInBounds (pos % cells.size) s) q rest =
        store (cells.setIfInBounds (pos % cells.size) s) (q % cells.size) rest := fun q => by
      rw [← ih, Array.size_setIfInBounds]
    rw [store, store, Nat.mod_mod, hnext, hnext (pos + 1), Nat.mod_add_mod]

theorem load_mod (cells : Array Sample) (pos n : Nat) :
    load cells (pos % cells.size) n = load cells pos n := by
  unfold load
  refine List.map_congr_left fun i _ => ?_
  rw [Nat.mod_add_mod]

/-- Behind the end of the area it begins anew. -/
theorem store_wrap {a : List Sample} (h : pos + a.length = cells.size) (b : List Sample) :
    store cells pos (a ++ b) = store (store cells pos a) 0 b := by
  rw [store_append, ← store_mod _ (pos + a.length), size_store, h, Nat.mod_self]

theorem load_wrap (h : pos + m = cells.size) (n : Nat) :
    load cells pos (m + n) = load cells pos m ++ load cells 0 n := by
  rw [load_add, ← load_mod _ (pos + m), h, Nat.mod_self]

/-! ## Copies -/

/-- Storing that does not reach the end of the area is a copy. -/
theorem toList_store (h : pos + samples.length ≤ cells.size) :
    (store cells pos samples).toList =
      cells.toList.take pos ++ samples ++ cells.toList.drop (pos + samples.length) := by
  induction samples generalizing cells pos with
  | nil => simp [store]
  | cons s rest ih =>
    rw [List.length_cons] at h
    have hin : pos % cells.size = pos := Nat.mod_eq_of_lt (by omega)
    have hlt : pos < cells.toList.length := by
      rw [Array.length_toList]
      omega
    have hsize : (cells.setIfInBounds pos s).size = cells.size := Array.size_setIfInBounds
    rw [store, hin, ih (by omega), Array.toList_setIfInBounds, List.length_cons,
      List.drop_set_of_lt (by omega), List.take_set, List.take_succ_eq_append_getElem hlt,
      List.set_append_right _ _ (by rw [List.length_take]; omega)]
    have hplace : pos - (cells.toList.take pos).length = 0 := by
      rw [List.length_take]
      omega
    rw [hplace, List.set_cons_zero, Nat.add_right_comm, Nat.add_assoc]
    simp

/-- Loading that does not reach the end of the area is a copy. -/
theorem load_eq_take_drop (h : pos + n ≤ cells.size) :
    load cells pos n = (cells.toList.drop pos).take n := by
  refine List.ext_getElem? fun i => ?_
  rw [List.getElem?_take, List.getElem?_drop, load, List.getElem?_map]
  by_cases hi : i < n
  · have hin : (pos + i) % cells.size = pos + i := Nat.mod_eq_of_lt (by omega)
    have hlt : pos + i < cells.size := by omega
    simp [hi, hin, hlt]
  · rw [if_neg hi, List.getElem?_eq_none (by simpa using hi)]
    rfl

end Ring

end HandsetAudio
