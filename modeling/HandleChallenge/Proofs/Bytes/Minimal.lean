import HandleChallenge.Bytes.Lemmas

/-!
# Numbers without leading zeros

`Bytes.minimal` writes a number in the fewest bytes. The byte strings that are read as a positive
number are that text behind zeros, as many as one likes (`padded_iff`).
-/

namespace HandleChallenge.Bytes

/-- Zeros in front do not count. -/
theorem toNat_zeros_append (zeros : Nat) (bytes : Bytes) :
    toNat (List.replicate zeros 0 ++ bytes) = toNat bytes := by
  induction zeros with
  | zero => rfl
  | succ zeros ih =>
    rw [List.replicate_succ, List.cons_append, ← ih]
    rfl

/-- Byte strings of one length are told apart by their numbers. -/
theorem eq_of_toNat_eq {bytes other : Bytes} (hlength : bytes.length = other.length)
    (h : toNat bytes = toNat other) : bytes = other := by
  rw [← ofNat_toNat bytes, ← ofNat_toNat other, hlength, h]

theorem two_pow_eight_mul (width : Nat) : 2 ^ (8 * width) = 256 ^ width := by
  rw [Nat.pow_mul]

theorem length_minimal (n : Nat) : (minimal n).length = n.log2 / 8 + 1 :=
  length_ofNat _ _

/-- A number is read back from its fewest bytes. -/
theorem toNat_minimal (n : Nat) : toNat (minimal n) = n := by
  refine toNat_ofNat ?_
  rw [← two_pow_eight_mul]
  exact Nat.lt_of_lt_of_le Nat.lt_log2_self (Nat.pow_le_pow_right (by decide) (by omega))

/-- No byte string that is read as the number is shorter. -/
theorem length_minimal_toNat_le {bytes : Bytes} (h : toNat bytes ≠ 0) :
    (minimal (toNat bytes)).length ≤ bytes.length := by
  have hlog : (toNat bytes).log2 < 8 * bytes.length := by
    rw [Nat.log2_lt h, two_pow_eight_mul]
    exact toNat_lt bytes
  rw [length_minimal]
  omega

/-- The fewest bytes of the number, behind zeros. -/
def Padded (n : Nat) (bytes : Bytes) : Prop := ∃ zeros, bytes = List.replicate zeros 0 ++ minimal n

theorem padded_minimal (n : Nat) : Padded n (minimal n) := ⟨0, rfl⟩

theorem Padded.length_minimal_le {n : Nat} {bytes : Bytes} (h : Padded n bytes) :
    (minimal n).length ≤ bytes.length := by
  obtain ⟨zeros, rfl⟩ := h
  rw [List.length_append]
  exact Nat.le_add_left _ _

/-- A byte string is read as a positive number if it is its fewest bytes behind zeros. -/
theorem padded_iff {n : Nat} (hn : n ≠ 0) {bytes : Bytes} : Padded n bytes ↔ n = toNat bytes := by
  constructor
  · rintro ⟨zeros, rfl⟩
    rw [toNat_zeros_append, toNat_minimal]
  · rintro rfl
    refine ⟨bytes.length - (minimal (toNat bytes)).length, eq_of_toNat_eq ?_ ?_⟩
    · have hle := length_minimal_toNat_le hn
      rw [List.length_append, List.length_replicate]
      omega
    · rw [toNat_zeros_append, toNat_minimal]

end HandleChallenge.Bytes
