import HandleChallenge.Number.Lemmas

/-!
# Primality

A number is prime if all smaller numbers but zero are powers of one root modulo the number
(`prime_of_root`). It is enough to know the prime factors of the predecessor and to raise the root to
a few powers, which `Modular.pow` does quickly also where the numbers are large.
-/

namespace HandleChallenge.Modular

/-- A power is one modulo a number exactly if it is one as it is computed. -/
theorem natCast_pow_eq_one_iff {n : Nat} (hn : 1 < n) (root exponent : Nat) :
    (root : ZMod n) ^ exponent = 1 ↔ pow n root exponent = 1 := by
  rw [pow_eq, ← Nat.cast_pow, ← Nat.cast_one, ZMod.natCast_eq_natCast_iff', Nat.mod_eq_of_lt hn]

/-- A number is prime if some root comes back to one behind as many steps as the number has
predecessors, and behind no proper part of them. -/
theorem prime_of_root {n : Nat} (root : Nat) (factors : List Nat) (hproduct : factors.prod + 1 = n)
    (hprimes : ∀ q ∈ factors, q.Prime) (hone : pow n root (n - 1) = 1)
    (hproper : ∀ q ∈ factors, pow n root ((n - 1) / q) ≠ 1) : n.Prime := by
  have hn : 1 < n := by
    have hpositive : 0 < n := hproduct ▸ Nat.succ_pos _
    have hne : n ≠ 1 := by
      rintro rfl
      rw [pow_eq, Nat.mod_one] at hone
      cases hone
    omega
  refine lucas_primality n root ((natCast_pow_eq_one_iff hn _ _).2 hone) fun q hq hdvd => ?_
  -- a prime that divides the predecessor is one of the factors
  rw [Ne, natCast_pow_eq_one_iff hn]
  obtain ⟨factor, hfactor, hqfactor⟩ : ∃ factor ∈ factors, q ∣ factor := by
    rwa [← hproduct, Nat.add_sub_cancel, hq.prime.dvd_prod_iff] at hdvd
  obtain rfl := (Nat.prime_dvd_prime_iff_eq hq (hprimes factor hfactor)).1 hqfactor
  exact hproper q hfactor

end HandleChallenge.Modular
