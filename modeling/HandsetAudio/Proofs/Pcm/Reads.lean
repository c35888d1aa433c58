import HandsetAudio.Pcm.ScriptedCard
import HandsetAudio.Pcm.SoftCard
import HandsetAudio.Proofs.Pcm.Area

/-!
# Reads that are filled

A read either fails or gives as many bytes as were asked for: what a ring does not have is
silence. Both cards keep to it (`FillsReads`).
-/

namespace HandsetAudio

/-- A card whose reads give as many bytes as asked for. -/
class FillsReads (σ : Type) [PcmDriver σ] : Prop where
  length_read {id : SubstreamId} {length : Nat} {card card' : σ} {bytes : List UInt8}
    (h : PcmDriver.read id length card = (.ok bytes, card')) : bytes.length = length

namespace Ring

/-- Popping replaces samples and adds none. -/
theorem length_pop (r : Ring) (out : List Sample) : (r.pop out).2.1.length = out.length := by
  have hcount := min_div_mul_le out.length r.channels r.availableRead
  simp only [pop, List.length_append, length_load, List.length_drop]
  omega

end Ring

theorem Substream.length_dequeue (s : Substream) (n : Nat) : (s.dequeue n).1.length = n := by
  have hpop := s.ring.length_pop (List.replicate n 0)
  rw [List.length_replicate] at hpop
  exact hpop

/-- A transfer that can take place has whole samples. -/
theorem SoftCard.even_of_obstacle? {c : SoftCard} {s : Substream} {length : Nat}
    (h : c.obstacle? s length = none) : 2 * (length / 2) = length := by
  unfold obstacle? at h
  split at h
  next => cases h
  next hwhole =>
    have hframe : s.config.frameBytes ∣ length := Nat.dvd_of_mod_eq_zero (by simpa using hwhole)
    have hsample : 2 ∣ s.config.frameBytes := Nat.dvd_mul_left ..
    exact Nat.mul_div_cancel' (Nat.dvd_trans hsample hframe)

instance : FillsReads SoftCard where
  length_read {id length card card' bytes} h := by
    rcases SoftCard.read_cases id length card with ⟨e, hread⟩ | ⟨s, -, -, hobstacle, hread⟩
    · cases (Prod.mk.inj (hread.symm.trans h)).1
    · obtain ⟨hbytes, -⟩ := Prod.mk.inj (hread.symm.trans h)
      rw [← Except.ok.inj hbytes, Sample.length_toBytes, Substream.length_dequeue]
      exact SoftCard.even_of_obstacle? hobstacle

instance : FillsReads ScriptedCard where
  length_read {id length card card' bytes} h := by
    have hmap : ∀ verdict : Except PcmError Unit,
        verdict.map (fun _ => List.replicate length (1 : UInt8)) = .ok bytes →
          bytes = List.replicate length 1 := by
      intro verdict hverdict
      cases verdict with
      | error e => cases hverdict
      | ok _ => exact (Except.ok.inj hverdict).symm
    rw [hmap _ (Prod.mk.inj h).1, List.length_replicate]

end HandsetAudio
