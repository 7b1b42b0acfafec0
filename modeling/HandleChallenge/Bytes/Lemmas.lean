import HandleChallenge.Bytes.Basic
import Mathlib

/-!
# Byte strings as numbers

Main statements: a number that fits its width reads back (`toNat_ofNat`), and the number of a byte
string fits its width (`toNat_lt`).
-/

namespace HandleChallenge.Bytes

/-- Digits beyond the width are dropped. -/
theorem toNat_ofNat_mod (width n : Nat) : toNat (ofNat width n) = n % 256 ^ width := by
  induction width generalizing n with
  | zero => simp [ofNat, Nat.mod_one]
  | succ width ih =>
    rw [ofNat, toNat_append_singleton, ih, Nat.pow_succ', Nat.mod_mul]
    simp
    omega

/-- A number that fits its width reads back. -/
theorem toNat_ofNat {width n : Nat} (h : n < 256 ^ width) : toNat (ofNat width n) = n := by
  rw [toNat_ofNat_mod, Nat.mod_eq_of_lt h]

theorem toNat_lt (bytes : Bytes) : toNat bytes < 256 ^ bytes.length := by
  have h := toNat_ofNat_mod bytes.length (toNat bytes)
  rw [ofNat_toNat] at h
  rw [h]
  exact Nat.mod_lt _ (Nat.pow_pos (by decide))

end HandleChallenge.Bytes
