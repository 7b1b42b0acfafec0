import HandleChallenge.Hash.Hmac
import HandleChallenge.Hash.Sha256
import HandleChallenge.Number.Modular
import HandleChallenge.Signature.Der

/-!
# ECDSA signatures on secp256k1

Points of the curve `y² = x³ + 7`. A signature is a pair of numbers whose second is in the lower
half of its range; nonces are derived from the key and the digest, so that signing is a
function.
-/

namespace HandleChallenge.Signature.Secp256k1

/-- The field's modulus, `2 ^ 256 - 2 ^ 32 - 977`. -/
def p : Nat := 0xfffffffffffffffffffffffffffffffffffffffffffffffffffffffefffffc2f

/-- The order of the base point. -/
def order : Nat := 0xfffffffffffffffffffffffffffffffebaaedce6af48a03bbfd25e8cd0364141

/-- Coordinates of a finite point. -/
structure Affine where
  x : Nat
  y : Nat
  deriving DecidableEq

/-- A point of the curve; `none` is the point at infinity. -/
abbrev Point := Option Affine

/-- The base point. -/
def base : Affine :=
  ⟨0x79be667ef9dcbbac55a06295ce870b07029bfcdb2dce28d959f2815b16f81798,
    0x483ada7726a3c4655da4fbfc0e1108a8fd17b448a68554199c47d08ffb10d4b8⟩

/-- Whether coordinates are reduced and on the curve. -/
def onCurve (a : Affine) : Bool :=
  decide (a.x < p) && decide (a.y < p) && a.y * a.y % p == (a.x * a.x * a.x + 7) % p

/-- The third point on the line through `a` and `b` with the given slope, mirrored. -/
def chord (slope : Nat) (a b : Affine) : Affine :=
  let x := Modular.sub p (slope * slope) (a.x + b.x)
  ⟨x, Modular.sub p (slope * Modular.sub p a.x x) a.y⟩

/-- The sum of two finite points. -/
def addAffine (a b : Affine) : Point :=
  if a.x = b.x then
    if (a.y + b.y) % p = 0 then none
    else do
      let inverse ← Modular.inverse? p (2 * a.y)
      return chord (3 * (a.x * a.x) * inverse % p) a b
  else do
    let inverse ← Modular.inverse? p (Modular.sub p b.x a.x)
    return chord (Modular.sub p b.y a.y * inverse % p) a b

/-- The sum of two points. -/
def add : Point → Point → Point
  | none, b => b
  | a, none => a
  | some a, some b => addAffine a b

/-- The sum of `n` copies of a point. -/
def scale (a : Point) (n : Nat) : Point :=
  if n = 0 then none
  else
    let half := scale (add a a) (n / 2)
    if n % 2 = 0 then half else add a half

/-- The point with the given `x` and parity of `y`, where there is one. -/
def lift? (x parity : Nat) : Option Affine :=
  let y := Modular.pow p (x * x * x + 7) ((p + 1) / 4)
  let a : Affine := ⟨x, if y % 2 = parity then y else Modular.sub p 0 y⟩
  if onCurve a then some a else none

/-- A public key: a finite point of the curve. -/
structure PublicKey where
  point : Affine
  valid : onCurve point = true
  deriving DecidableEq

/-- The key of a point. -/
def PublicKey.ofPoint? (point : Affine) : Option PublicKey :=
  if h : onCurve point = true then some ⟨point, h⟩ else none

/-- The key of a point in one of the forms of SEC 1: compressed, with the parity of `y` in the
tag; uncompressed; or `x` alone, which stands for the even `y`. -/
def PublicKey.decode? : Bytes → Option PublicKey
  | [] => none
  | tag :: coordinates =>
    let first := Bytes.toNat (coordinates.take 32)
    let second := Bytes.toNat (coordinates.drop 32)
    if coordinates.length = 32 ∧ (tag = 2 ∨ tag = 3 ∨ tag = 5) then
      (lift? first (if tag = 3 then 1 else 0)).bind ofPoint?
    else if coordinates.length = 64 ∧ tag = 4 then ofPoint? ⟨first, second⟩
    else none

/-- The compressed form of a key. -/
def PublicKey.encode (key : PublicKey) : Bytes :=
  UInt8.ofNat (2 + key.point.y % 2) :: Bytes.ofNat 32 key.point.x

/-- A pair of numbers in range. -/
def inRange (r s : Nat) : Bool :=
  decide (1 ≤ r) && decide (r < order) && decide (1 ≤ s) && decide (s < order)

/-- The pair of a signature: DER, or else both numbers in thirty-two bytes each. -/
def readSignature? (signature : Bytes) : Option (Nat × Nat) :=
  let der := (Der.decode? signature).filter fun (r, s) => inRange r s
  der.or <|
    let r := Bytes.toNat (signature.take 32)
    let s := Bytes.toNat (signature.drop 32)
    if signature.length = 64 ∧ inRange r s then some (r, s) else none

/-- Whether a pair is the key's signature for a digest of at most thirty-two bytes. The second
number may not exceed half the order. -/
def PublicKey.verify (key : PublicKey) (digest : Bytes) (r s : Nat) : Bool :=
  if inRange r s = false ∨ order / 2 < s then false
  else
    match Modular.inverse? order s with
    | none => false
    | some w =>
      let u := Bytes.toNat digest * w % order
      let v := r * w % order
      match add (scale (some base) u) (scale (some key.point) v) with
      | none => false
      | some a => a.x % order == r

/-- A digest in thirty-two bytes, zeros in front. -/
def digestField (digest : Bytes) : Bytes := List.replicate (32 - digest.length) 0 ++ digest

/-- The state of the nonce generator: a key and a value. -/
structure NonceState where
  key : Bytes
  value : Bytes

namespace NonceState

/-- The state after input is mixed in behind a mark. -/
def update (state : NonceState) (mark : UInt8) (input : Bytes) : NonceState :=
  let key := Hash.hmac Hash.Sha256.hash state.key (state.value ++ mark :: input)
  ⟨key, Hash.hmac Hash.Sha256.hash key state.value⟩

/-- The state for a secret scalar and a digest. -/
def ofSecret (secret : Nat) (digest : Bytes) : NonceState :=
  let input := Bytes.ofNat 32 secret ++ digest
  let start : NonceState := ⟨List.replicate 32 0, List.replicate 32 1⟩
  (start.update 0 input).update 1 input

/-- The first nonce in range that the generator gives within `tries`. -/
def nonce? : (tries : Nat) → NonceState → Option Nat
  | 0, _ => none
  | tries + 1, state =>
    let value := Hash.hmac Hash.Sha256.hash state.key state.value
    let k := Bytes.toNat value
    if 1 ≤ k ∧ k < order then some k else nonce? tries (update ⟨state.key, value⟩ 0 [])

end NonceState

/-- The key of a secret scalar between one and the order. -/
def publicKey? (secret : Nat) : Option PublicKey :=
  (scale (some base) secret).bind PublicKey.ofPoint?

/-- The signature, in DER, that a secret scalar gives a digest. A nonce out of range, which has
chance `2 ^ -127`, is tried again. -/
def sign? (secret : Nat) (digest : Bytes) : Option Bytes := do
  let field := digestField digest
  let k ← (NonceState.ofSecret secret field).nonce? 8
  let point ← scale (some base) k
  let inverse ← Modular.inverse? order k
  let r := point.x % order
  let s := inverse * (Bytes.toNat field + r * secret) % order
  guard (inRange r s)
  return Der.encode r (if order / 2 < s then order - s else s)

end HandleChallenge.Signature.Secp256k1
