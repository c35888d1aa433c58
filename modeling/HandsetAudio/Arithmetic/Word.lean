/-!
# Machine words

Sizes and free-running counters are words of 64 bits. Sums and products of them wrap around: what is
left of a number is its `word`.
-/

namespace HandsetAudio

/-- What a word of 64 bits holds of a number. -/
def word (n : Nat) : Nat := n % (1 <<< 64)

theorem word_lt (n : Nat) : word n < 1 <<< 64 := Nat.mod_lt _ (by decide)

theorem word_le (n : Nat) : word n ≤ n := Nat.mod_le ..

theorem word_of_lt {n : Nat} (h : n < 1 <<< 64) : word n = n := Nat.mod_eq_of_lt h

end HandsetAudio
