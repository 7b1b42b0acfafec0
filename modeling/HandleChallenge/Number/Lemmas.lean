import HandleChallenge.Number.Modular
import Mathlib

/-!
# Powers modulo a number

Main statement: repeated squaring computes the power (`pow_eq`).
-/

namespace HandleChallenge.Modular

/-- Repeated squaring computes the power. -/
theorem pow_eq {modulus : Nat} (base exponent : Nat) :
    pow modulus base exponent = base ^ exponent % modulus := by
  fun_induction pow modulus base exponent with
  | case1 base => simp
  | case2 base exponent h half even ih =>
    obtain ⟨k, hk⟩ : ∃ k, exponent = 2 * k := ⟨exponent / 2, by omega⟩
    have hdiv : exponent / 2 = k := by omega
    rw [show half = _ from ih, hdiv, hk, Nat.pow_mul, ← Nat.pow_mod, Nat.pow_two]
  | case3 base exponent h half odd ih =>
    obtain ⟨k, hk⟩ : ∃ k, exponent = 2 * k + 1 := ⟨exponent / 2, by omega⟩
    have hdiv : exponent / 2 = k := by omega
    rw [show half = _ from ih, hdiv, hk, Nat.pow_succ, Nat.pow_mul, ← Nat.pow_mod, Nat.pow_two,
      Nat.mul_mod_mod, Nat.mul_comm]

end HandleChallenge.Modular
