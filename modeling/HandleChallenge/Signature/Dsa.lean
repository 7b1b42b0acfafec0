import HandleChallenge.Number.Modular
import HandleChallenge.Bytes.Basic

/-!
# DSA signatures

A key is a generator `g` of a subgroup of order `q` modulo `p` and an element `y` of that
subgroup. The digest is cut to as many whole bytes as the order has.
-/

namespace HandleChallenge.Signature.Dsa

/-- Whether the parts make a key. The order is not tested for primality and `y` not for its
range. -/
def validKey (q p g y : Nat) : Bool :=
  decide (2 ≤ p) && decide (2 ≤ q) && g != 0 && decide (g ≤ p) && decide (2 ≤ y) &&
    Modular.pow p y q == 1

/-- A public key. -/
structure PublicKey where
  q : Nat
  p : Nat
  g : Nat
  y : Nat
  valid : validKey q p g y = true
  deriving DecidableEq

/-- The key of the given parts. -/
def PublicKey.ofParts? (q p g y : Nat) : Option PublicKey :=
  if h : validKey q p g y = true then some ⟨q, p, g, y, h⟩ else none

/-- The number that a digest contributes: its first bytes, as many whole bytes as the order
has. -/
def digestNumber (q : Nat) (digest : Bytes) : Nat :=
  Bytes.toNat (digest.take ((q.log2 + 1) / 8))

/-- Whether the pair `(r, s)` is the key's signature for a digest. -/
def PublicKey.verify (key : PublicKey) (digest : Bytes) (r s : Nat) : Bool :=
  if r = 0 ∨ s = 0 ∨ key.q ≤ r ∨ key.q ≤ s then false
  else
    match Modular.inverse? key.q s with
    | none => false
    | some w =>
      let u := digestNumber key.q digest * w % key.q
      let v := r * w % key.q
      Modular.pow key.p key.g u * Modular.pow key.p key.y v % key.p % key.q == r

end HandleChallenge.Signature.Dsa
