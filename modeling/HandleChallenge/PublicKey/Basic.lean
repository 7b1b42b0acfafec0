import HandleChallenge.Bytes.Reader
import HandleChallenge.Signature.Dsa
import HandleChallenge.Signature.Ed25519
import HandleChallenge.Signature.Rsa
import HandleChallenge.Signature.Secp256k1
import HandleChallenge.Text.Utf8

/-!
# Public key records

The data of a public-key value: the name of the key's family as a block, two bytes of flags and
the parts of the key, each as a block. A record is written with no flags, numbers without
leading zeros and points compressed, whatever form it was read from.
-/

namespace HandleChallenge

/-- A family of public keys. -/
inductive KeyFamily where
  | rsa
  | dsa
  | ed25519
  | secp256k1
  deriving DecidableEq

namespace KeyFamily

/-- The name of a family. -/
def name : KeyFamily → String
  | rsa => "RSA"
  | dsa => "DSA"
  | ed25519 => "Ed25519"
  | secp256k1 => "secp256k1"

/-- The name at the front of a record. -/
def recordType : KeyFamily → String
  | rsa => "RSA_PUB_KEY"
  | dsa => "DSA_PUB_KEY"
  | ed25519 => "Ed25519_PUB_KEY"
  | secp256k1 => "SECP256K1_PUB_KEY"

/-- Every family. -/
def all : List KeyFamily := [rsa, dsa, ed25519, secp256k1]

/-- The family with the given name. -/
def ofName? (name : String) : Option KeyFamily := all.find? (·.name == name)

/-- The family with the given name in its records. -/
def ofRecordType? (type : String) : Option KeyFamily := all.find? (·.recordType == type)

@[simp] theorem ofRecordType?_recordType (family : KeyFamily) :
    ofRecordType? family.recordType = some family := by
  cases family <;> rfl

end KeyFamily

/-- A public key. -/
inductive PublicKey where
  | rsa (key : Signature.Rsa.PublicKey)
  | dsa (key : Signature.Dsa.PublicKey)
  | ed25519 (key : Signature.Ed25519.PublicKey)
  | secp256k1 (key : Signature.Secp256k1.PublicKey)
  deriving DecidableEq

namespace PublicKey

/-- Why a record holds no key. -/
inductive RecordError where
  | layout (error : LayoutError)
  | unknownType (type : String)
  | invalid (family : KeyFamily) (reason : String)
  deriving DecidableEq

/-- The wording of a record error. -/
def RecordError.message : RecordError → String
  | layout error => "truncated key record: " ++ error.message
  | unknownType type => "unknown key type: " ++ type
  | invalid family reason => "invalid " ++ family.name ++ " key: " ++ reason

def family : PublicKey → KeyFamily
  | rsa _ => .rsa
  | dsa _ => .dsa
  | ed25519 _ => .ed25519
  | secp256k1 _ => .secp256k1

/-- A computation that reads from the front of a record. -/
abbrev RecordReader := ExceptT RecordError (StateM Bytes)

/-- Reads fields of a record. -/
def RecordReader.fields {α : Type} (reader : Reader α) : RecordReader α :=
  ExceptT.adapt RecordError.layout reader

open RecordReader (fields)

/-- A number as a block of a record. -/
def numberReader : RecordReader Nat := do return Bytes.toNat (← fields Reader.block)

/-- The reason given when the parts make no key and nothing more is known. -/
def noReason : String := "signature error"

/-- Reads the parts of a key: exponent and modulus. -/
def rsaReader : RecordReader PublicKey := do
  let exponent ← numberReader
  let modulus ← numberReader
  match Signature.Rsa.PublicKey.ofParts modulus exponent with
  | .ok key => return rsa key
  | .error error => throw (.invalid .rsa error.message)

/-- Reads the parts of a key: `q`, `p`, `g` and `y`. -/
def dsaReader : RecordReader PublicKey := do
  let q ← numberReader
  let p ← numberReader
  let g ← numberReader
  let y ← numberReader
  match Signature.Dsa.PublicKey.ofParts? q p g y with
  | some key => return dsa key
  | none => throw (.invalid .dsa noReason)

/-- Reads the bytes of a point. -/
def ed25519Reader : RecordReader PublicKey := do
  let point ← fields Reader.block
  if point.length ≠ 32 then throw (.invalid .ed25519 "point is not 32 bytes")
  match Signature.Ed25519.PublicKey.ofBytes? point with
  | some key => return ed25519 key
  | none => throw (.invalid .ed25519 (noReason ++ ": Cannot decompress Edwards point"))

/-- Reads the bytes of a point. -/
def secp256k1Reader : RecordReader PublicKey := do
  match Signature.Secp256k1.PublicKey.decode? (← fields Reader.block) with
  | some key => return secp256k1 key
  | none => throw (.invalid .secp256k1 noReason)

/-- Reads the parts of a key of a family. -/
def partsReader : KeyFamily → RecordReader PublicKey
  | .rsa => rsaReader
  | .dsa => dsaReader
  | .ed25519 => ed25519Reader
  | .secp256k1 => secp256k1Reader

/-- Reads a record and nothing behind it. -/
def reader : RecordReader PublicKey := do
  let type := Text.Utf8.decodeLossy (← fields Reader.block)
  let _flags ← fields Reader.u16
  match KeyFamily.ofRecordType? type with
  | none => throw (.unknownType type)
  | some family =>
    let key ← partsReader family
    fields Reader.finish
    return key

/-- The key that a record holds. -/
def decode (record : Bytes) : Except RecordError PublicKey := (reader.run record).1

/-- The parts of a key as they stand in its record. -/
def parts : PublicKey → List Bytes
  | rsa key => [Bytes.minimal key.exponent, Bytes.minimal key.modulus]
  | dsa key => [key.q, key.p, key.g, key.y].map Bytes.minimal
  | ed25519 key => [key.bytes]
  | secp256k1 key => [key.encode]

/-- The record of a key. -/
def encode (key : PublicKey) : Bytes :=
  Field.encodeAll
    (.block (Text.Utf8.encode key.family.recordType) :: .u16 0 :: key.parts.map .block)

end PublicKey

end HandleChallenge
