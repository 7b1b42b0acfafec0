import HandleChallenge.Hash.Md5
import HandleChallenge.Hash.Sha1
import HandleChallenge.Hash.Sha256
import HandleChallenge.Refusal
import HandleChallenge.Text.Hex

/-!
# Algorithms

The closed set of algorithms that a response may name. Names are compared by their ASCII letters
and digits alone, without regard to case, so `sha-256`, `SHA256` and `Sha_256` name one
algorithm. A secret-key response names its algorithm by a code byte instead.
-/

namespace HandleChallenge

/-- A hash function of the protocol. -/
inductive Digest where
  | md5
  | sha1
  | sha256
  deriving DecidableEq

/-- The digest of a message. -/
def Digest.hash : Digest → Bytes → Bytes
  | md5 => Hash.Md5.hash
  | sha1 => Hash.Sha1.hash
  | sha256 => Hash.Sha256.hash

/-- How an algorithm turns a secret and a message into a response. -/
inductive Method where
  /-- The digest of the message between two copies of the secret; also the hash of a
  signature. -/
  | digest (hash : Digest)
  /-- A keyed hash. -/
  | hmac (hash : Digest)
  /-- A keyed hash under a key derived from the secret. -/
  | pbkdf2
  deriving DecidableEq

/-- An algorithm that a response may name. -/
inductive Algorithm where
  | md5
  | sha1
  | sha256
  | hmacSha1
  | hmacSha256
  | pbkdf2HmacSha1
  deriving DecidableEq

namespace Algorithm

/-- Every algorithm. -/
def all : List Algorithm := [md5, sha1, sha256, hmacSha1, hmacSha256, pbkdf2HmacSha1]

/-- The canonical name. -/
def name : Algorithm → String
  | md5 => "MD5"
  | sha1 => "SHA1"
  | sha256 => "SHA-256"
  | hmacSha1 => "HMAC-SHA1"
  | hmacSha256 => "HMAC-SHA256"
  | pbkdf2HmacSha1 => "PBKDF2-HMAC-SHA1"

/-- The code byte. -/
def wireCode : Algorithm → UInt8
  | md5 => 0x01
  | sha1 => 0x02
  | sha256 => 0x03
  | hmacSha1 => 0x12
  | hmacSha256 => 0x13
  | pbkdf2HmacSha1 => 0x22

/-- The spellings that a client may send. -/
def aliases : Algorithm → List String
  | md5 => ["MD5"]
  | sha1 => ["SHA", "SHA1", "SHA-1"]
  | sha256 => ["SHA-256", "SHA256", "SHA-2", "SHA2"]
  | hmacSha1 => ["HMAC-SHA1", "HmacSHA1"]
  | hmacSha256 => ["HMAC-SHA256", "HmacSHA256"]
  | pbkdf2HmacSha1 => ["PBKDF2-HMAC-SHA1", "PBKDF2WithHmacSHA1"]

def method : Algorithm → Method
  | md5 => .digest .md5
  | sha1 => .digest .sha1
  | sha256 => .digest .sha256
  | hmacSha1 => .hmac .sha1
  | hmacSha256 => .hmac .sha256
  | pbkdf2HmacSha1 => .pbkdf2

/-- The hash function, for an algorithm that is nothing else. -/
def digest? (algorithm : Algorithm) : Option Digest :=
  match algorithm.method with
  | .digest hash => some hash
  | _ => none

/-- Whether the algorithm can be the hash of a signature. -/
def isSignatureHash (algorithm : Algorithm) : Bool := algorithm.digest?.isSome

/-- The part of a name that counts: ASCII letters, as capitals, and digits. -/
def normalize (name : String) : List Char :=
  (name.toList.filter Char.isAlphanum).map Char.toUpper

/-- Whether a name spells the algorithm. -/
def answersTo (algorithm : Algorithm) (name : String) : Bool :=
  (algorithm.name :: algorithm.aliases).any fun spelling => normalize spelling == normalize name

/-- The algorithm that a name spells. -/
def resolve (name : String) : Except Refusal Algorithm :=
  match all.find? (·.answersTo name) with
  | some algorithm => .ok algorithm
  | none => .error (.unsupportedAlgorithm name)

/-- The algorithm with the given code byte. -/
def ofWireCode (code : UInt8) : Except Refusal Algorithm :=
  match all.find? (·.wireCode == code) with
  | some algorithm => .ok algorithm
  | none =>
    .error (.unsupportedAlgorithm ("wire code 0x" ++ String.ofList (Text.Hex.printByte code)))

/-- The message of a digest, for an algorithm that is one. -/
def hash (algorithm : Algorithm) (message : Bytes) : Except Refusal Bytes :=
  match algorithm.digest? with
  | some digest => .ok (digest.hash message)
  | none => .error (.unsupportedAlgorithm (algorithm.name ++ " is not a digest"))

@[simp] theorem resolve_name (algorithm : Algorithm) : resolve algorithm.name = .ok algorithm := by
  cases algorithm <;> rfl

@[simp] theorem ofWireCode_wireCode (algorithm : Algorithm) :
    ofWireCode algorithm.wireCode = .ok algorithm := by
  cases algorithm <;> rfl

end Algorithm

/-- The algorithm that is the hash function alone. -/
def Digest.algorithm : Digest → Algorithm
  | md5 => .md5
  | sha1 => .sha1
  | sha256 => .sha256

end HandleChallenge
