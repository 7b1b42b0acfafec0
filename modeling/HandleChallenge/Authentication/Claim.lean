import HandleChallenge.Header.Params
import HandleChallenge.Text.Base64
import HandleChallenge.Text.Blank
import HandleChallenge.Verification

/-!
# Claims

The parameters of a header claim an identity by a signed response. A claim is decoded in full, in
a fixed order of checks, before any key source hears of it.
-/

namespace HandleChallenge.Authentication

open Header (Known Params)

/-- A claimed identity with the response that is to prove it and the client's nonce. -/
structure Claim where
  identity : Identity
  response : SignedResponse
  clientNonce : Bytes
  deriving DecidableEq

namespace Claim

/-- The value of a parameter, empty when it is absent. -/
def textOf (params : Params) (known : Known) : String := (params.known? known).getD ""

/-- The bytes of a parameter in base64; blanks may stand around it. -/
def bytesOf (params : Params) (known : Known) : Except Refusal Bytes :=
  match Text.Base64.decodeList? (Text.trim (textOf params known).toList) with
  | some bytes => .ok bytes
  | none => .error (.malformedResponse (known.key ++ " is not base64"))

/-- The number of a parameter; blanks may stand around it. -/
def numberOf (params : Params) (known : Known) : Except Refusal UInt32 :=
  match Text.Decimal.parse? UInt32.size (Text.trim (textOf params known).toList) with
  | some n => .ok (UInt32.ofNat n)
  | none => .error (.malformedResponse (known.key ++ " is not a number"))

/-- The parameters of a derived key, within the limit. -/
def derivationOf (maxIterations : UInt32) (params : Params) : Except Refusal Derivation := do
  if [Known.salt, .iterations, .length].all params.has = false then
    throw (.incomplete "PBKDF2 needs salt, iterations and length")
  let salt ← bytesOf params .salt
  let iterations ← numberOf params .iterations
  let lengthBits ← numberOf params .length
  let derivation : Derivation := { salt, iterations, lengthBits }
  derivation.validate maxIterations
  return derivation

/-- The kind of credential that a tag names. -/
def kindOf (tag : String) : Except Refusal CredentialKind :=
  match CredentialKind.ofTag? tag with
  | some kind => .ok kind
  | none => .error (.unsupportedAlgorithm ("credential type " ++ tag))

/-- The identity that a text names. -/
def identityOf (text : String) : Except Refusal Identity :=
  (Identity.parse text).mapError fun error => .unresolvable error.message

/-- The claim that parameters make. The first check that fails refuses it. -/
def decode (maxIterations : UInt32) (params : Params) : Except Refusal Claim := do
  if let some missing := params.missing? then
    throw (.incomplete ("missing " ++ missing.key))
  let kind ← kindOf (textOf params .type)
  let algorithm ← Algorithm.resolve (textOf params .alg)
  let identity ← identityOf (textOf params .id)
  let clientNonce ← bytesOf params .cnonce
  let raw ← bytesOf params .signature
  let derivation ←
    if algorithm.method = .pbkdf2 then some <$> derivationOf maxIterations params else pure none
  let response ← SignedResponse.ofParts kind algorithm raw derivation
  return { identity, response, clientNonce }

/-- The verification of a claim under a server's nonce. -/
def request (claim : Claim) (serverNonce : Bytes) : VerificationRequest where
  identity := claim.identity
  response := claim.response
  serverNonce := serverNonce
  clientNonce := claim.clientNonce

end Claim

end HandleChallenge.Authentication
