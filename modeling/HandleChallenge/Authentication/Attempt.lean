import HandleChallenge.Authentication.Claim
import HandleChallenge.Authentication.Request
import HandleChallenge.Config.Policy
import HandleChallenge.Secret.Mac

/-!
# Attempts

An attempt follows every way in which a request claims an identity until one is accepted: first
the parameters, then the password. Refusals are kept in the order in which they happen.
-/

namespace HandleChallenge.Authentication

open Header (Params PasswordClaim)

/-- The identity that the parameters of a header prove, and by which kind of credential. -/
def verifyParams (policy : Policy) (params : Params) (serverNonce : Bytes) :
    Consultation (Except Refusal (Identity × CredentialKind)) :=
  match Claim.decode policy.maxIterations params with
  | .error refusal => .done (.error refusal)
  | .ok claim => do
    let verified ← (claim.request serverNonce).verify
    return verified.map (·, claim.response.kind)

/-- The algorithm by which a password is checked. -/
def passwordAlgorithm : Algorithm := .hmacSha256

/-- The verification of a password. The server takes the client's part: it picks the nonce and
computes the MAC of the pair under the password. -/
def passwordRequest (claim : PasswordClaim) (serverNonce clientNonce : Bytes) :
    Except Refusal VerificationRequest := do
  let payload ← Mac.respond passwordAlgorithm claim.password serverNonce clientNonce none
  return { identity := claim.identity, response := .secretKey passwordAlgorithm payload,
           serverNonce, clientNonce }

/-- The identity that a password proves. -/
def verifyPassword (claim : PasswordClaim) (serverNonce clientNonce : Bytes) :
    Consultation (Except Refusal Identity) :=
  match passwordRequest claim serverNonce clientNonce with
  | .error refusal => .done (.error refusal)
  | .ok request => request.verify

/-- The outcome by password alone, after the given refusals. -/
def attemptPassword (refusals : List Refusal) (password : Option PasswordClaim)
    (serverNonce clientNonce : Bytes) : Consultation Outcome :=
  match password with
  | none => .done (.failure refusals)
  | some claim => do
    match ← verifyPassword claim serverNonce clientNonce with
    | .ok identity => return .success identity .secretKey refusals
    | .error refusal => return .failure (refusals ++ [refusal])

/-- The outcome of every claim in a reading. -/
def attempt (policy : Policy) (reading : Reading) (serverNonce clientNonce : Bytes) :
    Consultation Outcome :=
  if reading.params.claimsIdentity then do
    match ← verifyParams policy reading.params serverNonce with
    | .ok (identity, kind) => return .success identity kind []
    | .error refusal => attemptPassword [refusal] reading.password serverNonce clientNonce
  else attemptPassword [] reading.password serverNonce clientNonce

end HandleChallenge.Authentication
