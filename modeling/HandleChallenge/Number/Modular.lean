/-!
# Arithmetic modulo a number

Powers by repeated squaring and inverses by the extended algorithm of Euclid.
-/

namespace HandleChallenge.Modular

/-- `base ^ exponent` modulo `modulus`. -/
def pow (modulus base exponent : Nat) : Nat :=
  if exponent = 0 then 1 % modulus
  else
    let half := pow modulus (base * base % modulus) (exponent / 2)
    if exponent % 2 = 0 then half else base * half % modulus

/-- The difference of two residues. -/
def sub (modulus a b : Nat) : Nat := (a + modulus - b % modulus) % modulus

/-- The greatest common divisor of `a` and `b` and, when the loop starts with `x = 0` and
`y = 1`, the factor of the first `b` in it. -/
def euclid (a b : Nat) (x y : Int) : Nat × Int :=
  if b = 0 then (a, x) else euclid b (a % b) y (x - (a / b : Nat) * y)
termination_by b
decreasing_by exact Nat.mod_lt _ (Nat.pos_of_ne_zero (by assumption))

/-- The inverse of a residue, where it has one. -/
def inverse? (modulus a : Nat) : Option Nat :=
  let (divisor, factor) := euclid modulus (a % modulus) 0 1
  if divisor = 1 then some (factor % modulus).toNat else none

end HandleChallenge.Modular
