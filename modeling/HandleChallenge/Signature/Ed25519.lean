import HandleChallenge.Hash.Sha512
import HandleChallenge.Number.Modular

/-!
# Ed25519 signatures

Points of the curve `-x² + y² = 1 + d x² y²` modulo `2 ^ 255 - 19`, in extended coordinates, so
that one complete addition law serves all pairs of points and no step divides. Verification is
strict: the scalar is reduced, neither the key nor the commitment has small order, and the
commitment is compared as bytes.
-/

namespace HandleChallenge.Signature.Ed25519

/-- The field's modulus, `2 ^ 255 - 19`. -/
def p : Nat := 0x7fffffffffffffffffffffffffffffffffffffffffffffffffffffffffffffed

/-- The order of the base point. -/
def order : Nat := 0x1000000000000000000000000000000014def9dea2f79cd65812631a5cf5d3ed

/-- The curve's constant, `-121665 / 121666`. -/
def d : Nat := 0x52036cee2b6ffe738cc740797779e89800700a4d4141d8ab75eb4dca135978a3

/-- A square root of `-1`. -/
def rootOfMinusOne : Nat := 0x2b8324804fc1df0b2b4d00993dfbd7a72f431806ad2fe478c4ee1b274a0ea0b0

/-- The highest of the two hundred and fifty-six bits of a written point, `2 ^ 255`. -/
def signBit : Nat := 0x8000000000000000000000000000000000000000000000000000000000000000

/-- A point `(x / z, y / z)` with `t = x y / z`. -/
structure Point where
  x : Nat
  y : Nat
  z : Nat
  t : Nat

/-- The neutral point. -/
def zero : Point := ⟨0, 1, 1, 0⟩

/-- The base point. -/
def base : Point :=
  let x := 0x216936d3cd6e53fec0a4e231fdd6dc5c692cc7609525a7b2c9562d608f25d51a
  let y := 0x6666666666666666666666666666666666666666666666666666666666666658
  ⟨x, y, 1, x * y % p⟩

namespace Point

/-- The sum of two points. -/
def add (a b : Point) : Point :=
  let m := Modular.sub p a.y a.x * Modular.sub p b.y b.x % p
  let n := (a.y + a.x) * (b.y + b.x) % p
  let c := 2 * a.t * b.t % p * d % p
  let e := 2 * a.z * b.z % p
  let f := Modular.sub p n m
  let g := Modular.sub p e c
  let h := (e + c) % p
  let i := (n + m) % p
  ⟨f * g % p, h * i % p, g * h % p, f * i % p⟩

/-- The opposite of a point. -/
def neg (a : Point) : Point := ⟨Modular.sub p 0 a.x, a.y, a.z, Modular.sub p 0 a.t⟩

/-- The sum of `n` copies of a point. -/
def scale (a : Point) (n : Nat) : Point :=
  if n = 0 then zero
  else
    let half := scale (add a a) (n / 2)
    if n % 2 = 0 then half else add a half

/-- Whether a point is neutral. -/
def isZero (a : Point) : Bool := a.x % p == 0 && a.y % p == a.z % p

/-- Whether eight copies of a point are neutral. -/
def hasSmallOrder (a : Point) : Bool := (a.scale 8).isZero

/-- The thirty-two bytes of a point: `y`, least significant byte first, with the lowest bit of
`x` in the highest place. -/
def encode (a : Point) : Bytes :=
  let inverse := Modular.pow p a.z (p - 2)
  let x := a.x * inverse % p
  let y := a.y * inverse % p
  (Bytes.ofNat 32 (y + x % 2 * signBit)).reverse

end Point

/-- A square root of `u / v` whose lowest bit is zero, where there is one. -/
def ratioRoot? (u v : Nat) : Option Nat :=
  let candidate := u * Modular.pow p v 3 % p * Modular.pow p (u * Modular.pow p v 7) ((p - 5) / 8) % p
  let check := v * candidate % p * candidate % p
  let root :=
    if check = u % p then some candidate
    else if check = Modular.sub p 0 u then some (candidate * rootOfMinusOne % p)
    else none
  root.map fun r => if r % 2 = 0 then r else Modular.sub p 0 r

/-- The point that thirty-two bytes name. A `y` beyond the modulus is reduced, and the sign of
`x = 0` does not matter. -/
def Point.decode? (bytes : Bytes) : Option Point := do
  guard (bytes.length = 32)
  let n := Bytes.toNat bytes.reverse
  let y := n % signBit % p
  let root ← ratioRoot? (Modular.sub p (y * y) 1) ((d * (y * y % p) + 1) % p)
  let x := if n < signBit then root else Modular.sub p 0 root
  return ⟨x, y, 1, x * y % p⟩

/-- A public key: bytes that name a point. -/
structure PublicKey where
  bytes : Bytes
  point : Point
  named : Point.decode? bytes = some point

instance : DecidableEq PublicKey := fun a b =>
  if h : a.bytes = b.bytes then
    isTrue (by
      obtain ⟨bytes, point, named⟩ := a
      obtain ⟨bytes', point', named'⟩ := b
      subst h
      have : point = point' := Option.some.inj (named.symm.trans named')
      subst this
      rfl)
  else isFalse fun hab => h (by rw [hab])

/-- The key that bytes name. -/
def PublicKey.ofBytes? (bytes : Bytes) : Option PublicKey :=
  match h : Point.decode? bytes with
  | some point => some ⟨bytes, point, h⟩
  | none => none

/-- The number, least significant byte first, of a SHA-512 digest. -/
def hashNumber (message : Bytes) : Nat := Bytes.toNat (Hash.Sha512.hash message).reverse

/-- Whether sixty-four bytes are the key's signature for a message. -/
def PublicKey.verify (key : PublicKey) (message signature : Bytes) : Bool :=
  let commitment := signature.take 32
  let s := Bytes.toNat (signature.drop 32).reverse
  match Point.decode? commitment with
  | none => false
  | some point =>
    let k := hashNumber (commitment ++ key.bytes ++ message) % order
    signature.length == 64 && decide (s < order) && !point.hasSmallOrder &&
      !key.point.hasSmallOrder &&
      ((base.scale s).add (key.point.neg.scale k)).encode == commitment

/-- The secret scalar of a seed, and the bytes that make its signatures unpredictable. -/
def expandSeed (seed : Bytes) : Nat × Bytes :=
  let digest := Hash.Sha512.hash seed
  let n := Bytes.toNat (digest.take 32).reverse
  let top := signBit / 2
  (n % top / 8 * 8 + top, digest.drop 32)

/-- The bytes of a seed's public key. -/
def publicBytes (seed : Bytes) : Bytes := (base.scale (expandSeed seed).1).encode

/-- The signature that a seed gives a message. -/
def sign (seed message : Bytes) : Bytes :=
  let (scalar, mask) := expandSeed seed
  let r := hashNumber (mask ++ message) % order
  let commitment := (base.scale r).encode
  let k := hashNumber (commitment ++ publicBytes seed ++ message) % order
  commitment ++ (Bytes.ofNat 32 ((r + k * scalar) % order)).reverse

end HandleChallenge.Signature.Ed25519
